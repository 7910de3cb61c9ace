import Reshape.Extraction
import Reshape.Schema.Reader

/-!
# Extractors

An extractor keeps settings, modifiers and the plan of the last schema that compiled, for any number
of documents.

* `compile` keeps the new plan, and leaves the old one when the schema has a fault;
* `runText` notices a missing plan before it reads the text;
* `extract` compiles a schema for one document and keeps nothing.
-/

namespace Reshape

/-- Settings, modifiers and the current plan. -/
structure Extractor (σ : Type) where
  settings : Settings
  registry : Registry
  plan? : Option (Plan σ)

namespace Extractor

variable {σ : Type}

/-- An extractor without a plan, over the given modifiers. -/
def ofRegistry (settings : Settings) (registry : Registry) : Extractor σ :=
  ⟨settings, registry, none⟩

/-- An extractor without a plan that knows the built-in capabilities only. -/
def initial (settings : Settings) : Extractor σ := ofRegistry settings .initial

/-- The extractor with the plan of this schema. -/
def compile (extractor : Extractor σ) (schema : Schema σ) : Except Error (Extractor σ) := do
  let plan ← Plan.compile extractor.settings.maxDepth schema
  return { extractor with plan? := some plan }

def ofSchema (settings : Settings) (schema : Schema σ) : Except Error (Extractor σ) :=
  (initial settings).compile schema

def withPlan (extractor : Extractor σ) (plan : Plan σ) : Extractor σ :=
  { extractor with plan? := some plan }

/-- The extractor with a modifier registered or replaced; it serves present plans too. -/
def register (extractor : Extractor σ) (name : String) (operation : Operation) :
    Except Error (Extractor σ) := do
  let registry ← extractor.registry.register name operation
  return { extractor with registry }

def registerCapability (extractor : Extractor σ) (kind : Json.Kind) (name : String)
    (operation : Operation) : Extractor σ :=
  { extractor with
    registry.capabilities := extractor.registry.capabilities.register kind name operation }

/-- What any plan makes of a document, with the settings and modifiers of the extractor. -/
def runPlan (extractor : Extractor σ) (plan : Plan σ) (document : Json) : Extraction σ Json :=
  plan.run extractor.registry extractor.settings document

/-- What the current plan makes of a document. -/
def run (extractor : Extractor σ) (document : Json) : Extraction σ Json :=
  match extractor.plan? with
  | some plan => extractor.runPlan plan document
  | none => throw .planNotCompiled

/-- What the current plan makes of a JSON text. -/
def runText (extractor : Extractor σ) (text : String) : Extraction σ Json :=
  match extractor.plan? with
  | none => throw .planNotCompiled
  | some plan =>
    match Json.parse? text with
    | some document => extractor.runPlan plan document
    | none => throw .invalidJson

/-- What a schema makes of a document, with the settings and modifiers of the extractor. -/
def extract (extractor : Extractor σ) (schema : Schema σ) (document : Json) :
    Extraction σ Json :=
  match Plan.compile extractor.settings.maxDepth schema with
  | .ok plan => extractor.runPlan plan document
  | .error e => throw e

end Extractor

/-- What a schema makes of a document, with default settings and built-in capabilities. -/
def Schema.extract {σ : Type} (schema : Schema σ) (document : Json) : Extraction σ Json :=
  (Extractor.initial Settings.standard).extract schema document

end Reshape
