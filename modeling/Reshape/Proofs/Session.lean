import Reshape.Extractor
import Reshape.Proofs.Resolution

/-!
# Sessions

An extractor that serves requests, one after another, and the log of what was asked and answered:

* `Session.serve`: a change that fails leaves the extractor as it was, and runs never change it;
* `planInForce`, `modifierInForce` and `capabilityInForce` read off a log what the latest changes
  that succeeded have put in force;
* `Kept` says that the extractor holds just that, over the settings and the registry it began with;
  every request preserves it (`kept_serve`), so every session has it (`kept_after`);
* `run_of_alike`: a run depends on the settings, the plan and the bindings in force only;
* `sessions_remember` puts these together.
-/

namespace Reshape

open Extraction (outcome)
open Results

variable {σ : Type}

/-- What can be asked of an extractor. -/
inductive Request (σ : Type) where
  /-- Compile a schema and keep its plan. -/
  | compile (schema : Schema σ)
  /-- Keep a plan that is already there. -/
  | install (plan : Plan σ)
  | register (name : String) (operation : Operation)
  | registerCapability (kind : Json.Kind) (name : String) (operation : Operation)
  /-- Compile a schema for one document. -/
  | extract (schema : Schema σ) (document : Json)
  /-- Run the plan that is kept. -/
  | run (document : Json)
  | runText (text : String)
  /-- Run some other plan. -/
  | runPlan (plan : Plan σ) (document : Json)

/-- Whether a request only asks for a result. -/
def Request.reads : Request σ → Bool
  | extract .. | run .. | runText .. | runPlan .. => true
  | compile .. | install .. | register .. | registerCapability .. => false

/-- A request and its answer, which is a value if one was asked for. -/
structure Exchange (σ : Type) where
  request : Request σ
  answer : Except Error (Option Json)

/-- An extractor at work. -/
structure Session (σ : Type) where
  extractor : Extractor σ
  /-- The state of the producers of defaults. -/
  producers : σ
  /-- What was asked so far, and how it was answered. -/
  log : List (Exchange σ)

namespace Session

/-- A new extractor without a plan. -/
def start (settings : Settings) (registry : Registry) (producers : σ) : Session σ :=
  ⟨.ofRegistry settings registry, producers, []⟩

/-- The session after a change of its extractor, or after the attempt. -/
def change (session : Session σ) (request : Request σ) :
    Except Error (Extractor σ) → Session σ
  | .ok extractor => ⟨extractor, session.producers, session.log ++ [⟨request, .ok none⟩]⟩
  | .error e => { session with log := session.log ++ [⟨request, .error e⟩] }

/-- The session after a run, which may have moved its producers on. -/
def read (session : Session σ) (request : Request σ) (run : Extraction σ Json) : Session σ :=
  { session with
    producers := (outcome run session.producers).2
    log := session.log ++ [⟨request, some <$> (outcome run session.producers).1⟩] }

def serve (session : Session σ) (request : Request σ) : Session σ :=
  let extractor := session.extractor
  match request with
  | .compile schema => session.change request (extractor.compile schema)
  | .install plan => session.change request (.ok (extractor.withPlan plan))
  | .register name operation => session.change request (extractor.register name operation)
  | .registerCapability kind name operation =>
    session.change request (.ok (extractor.registerCapability kind name operation))
  | .extract schema document => session.read request (extractor.extract schema document)
  | .run document => session.read request (extractor.run document)
  | .runText text => session.read request (extractor.runText text)
  | .runPlan plan document => session.read request (extractor.runPlan plan document)

/-- The session after requests, one after another. -/
def after (session : Session σ) (requests : List (Request σ)) : Session σ :=
  requests.foldl serve session

end Session

/-! ## What is in force -/

namespace Exchange

/-- The plan that a compilation or an installation has put in force, if it succeeded. -/
def plan? (settings : Settings) : Exchange σ → Option (Plan σ)
  | ⟨.compile schema, .ok _⟩ => (Plan.compile settings.maxDepth schema).toOption
  | ⟨.install plan, .ok _⟩ => some plan
  | _ => none

/-- What a registration has bound to the name, if it succeeded. -/
def modifier? (name : String) : Exchange σ → Option Operation
  | ⟨.register other operation, .ok _⟩ => if other = name then some operation else none
  | _ => none

/-- What the declaration of a capability has bound to the kind and the name. -/
def capability? (kind : Json.Kind) (name : String) : Exchange σ → Option Operation
  | ⟨.registerCapability other called operation, .ok _⟩ =>
    if other = kind ∧ called = name then some operation else none
  | _ => none

end Exchange

/-- What the last entry of a log that puts anything in force has put in force. -/
def latest {α : Type} (puts : Exchange σ → Option α) (log : List (Exchange σ)) : Option α :=
  (log.filterMap puts).getLast?

theorem latest_concat {α : Type} (puts : Exchange σ → Option α) (log : List (Exchange σ))
    (exchange : Exchange σ) :
    latest puts (log ++ [exchange]) = (puts exchange).or (latest puts log) := by
  unfold latest
  cases h : puts exchange <;> simp [List.filterMap_append, h]

/-- The plan of the last compilation or installation that succeeded. -/
def planInForce (settings : Settings) (log : List (Exchange σ)) : Option (Plan σ) :=
  latest (Exchange.plan? settings) log

/-- The operation of the last registration of the name that succeeded, else what a registry binds to
it from the start. -/
def modifierInForce (registry : Registry) (log : List (Exchange σ)) (name : String) :
    Option Operation :=
  (latest (Exchange.modifier? name) log).or (registry.modifiers.get? name)

def capabilityInForce (registry : Registry) (log : List (Exchange σ)) (kind : Json.Kind)
    (name : String) : Option Operation :=
  (latest (Exchange.capability? kind name) log).or
    ((registry.capabilities.operations kind).get? name)

/-! ## One request -/

namespace Exchange

/-- A run, or a change that failed. -/
def Idle (exchange : Exchange σ) : Prop :=
  exchange.request.reads = true ∨ ∃ e, exchange.answer = .error e

/-- What an exchange makes of an extractor: it puts in force what it says, and nothing else. -/
structure Changes (exchange : Exchange σ) (before after : Extractor σ) : Prop where
  settings : after.settings = before.settings
  plan : after.plan? = (exchange.plan? before.settings).or before.plan?
  modifiers : ∀ name, after.registry.modifiers.get? name =
    (exchange.modifier? name).or (before.registry.modifiers.get? name)
  capabilities : ∀ kind name, (after.registry.capabilities.operations kind).get? name =
    (exchange.capability? kind name).or ((before.registry.capabilities.operations kind).get? name)
  compiled : ∀ schema answer, exchange = ⟨.compile schema, .ok answer⟩ →
    ∃ plan, Plan.compile before.settings.maxDepth schema = .ok plan
  idle : exchange.Idle → after = before

theorem changes_of_idle {exchange : Exchange σ} (idle : exchange.Idle) (extractor : Extractor σ) :
    exchange.Changes extractor extractor := by
  obtain ⟨request, answer⟩ := exchange
  obtain reads | ⟨e, refused⟩ := idle
  · cases request with
    | compile | install | register | registerCapability => cases reads
    | extract | run | runText | runPlan =>
      exact ⟨rfl, rfl, fun _ => rfl, fun _ _ => rfl, nofun, fun _ => rfl⟩
  · obtain rfl : answer = .error e := refused
    cases request <;> exact ⟨rfl, rfl, fun _ => rfl, fun _ _ => rfl, nofun, fun _ => rfl⟩

theorem not_idle {request : Request σ} {answer : Option Json} (changes : request.reads = false) :
    ¬ Idle ⟨request, .ok answer⟩ := by
  rintro (reads | ⟨e, refused⟩)
  · cases changes.symm.trans reads
  · cases refused

variable {before after : Extractor σ} {answer : Option Json}

theorem changes_of_compile {schema : Schema σ} (h : before.compile schema = .ok after) :
    Changes ⟨.compile schema, .ok answer⟩ before after := by
  obtain ⟨plan, compiled, kept⟩ := bind_eq_ok.1 h
  obtain rfl := pure_eq_ok.1 kept
  refine ⟨rfl, ?_, fun _ => rfl, fun _ _ => rfl, ?_, fun idle => absurd idle (not_idle rfl)⟩
  · rw [plan?, compiled]
    rfl
  · rintro _ _ ⟨⟩
    exact ⟨plan, compiled⟩

theorem changes_of_install (before : Extractor σ) (plan : Plan σ) :
    Changes ⟨.install plan, .ok answer⟩ before (before.withPlan plan) :=
  ⟨rfl, rfl, fun _ => rfl, fun _ _ => rfl, nofun, fun idle => absurd idle (not_idle rfl)⟩

theorem changes_of_register {name : String} {operation : Operation}
    (h : before.register name operation = .ok after) :
    Changes ⟨.register name operation, .ok answer⟩ before after := by
  obtain ⟨registry, registered, kept⟩ := bind_eq_ok.1 h
  obtain rfl := pure_eq_ok.1 kept
  obtain ⟨_, rfl⟩ := Registry.register_eq_ok.1 registered
  refine ⟨rfl, rfl, fun other => ?_, fun _ _ => rfl, nofun,
    fun idle => absurd idle (not_idle rfl)⟩
  rw [Keyed.get?_insert, modifier?]
  split <;> rfl

theorem changes_of_registerCapability (before : Extractor σ) (kind : Json.Kind) (name : String)
    (operation : Operation) :
    Changes ⟨.registerCapability kind name operation, .ok answer⟩ before
      (before.registerCapability kind name operation) := by
  refine ⟨rfl, rfl, fun _ => rfl, fun other called => ?_, nofun,
    fun idle => absurd idle (not_idle rfl)⟩
  rw [Extractor.registerCapability, Capabilities.operations_register, capability?]
  by_cases same : other = kind ∧ name = called
  · rw [if_pos same, if_pos ⟨same.1.symm, same.2⟩]
    rfl
  · rw [if_neg same, if_neg fun h => same ⟨h.1.symm, h.2⟩]
    rfl

end Exchange

namespace Session

/-- Every request adds itself with its answer to the log and changes the extractor accordingly. -/
theorem serve_spec (session : Session σ) (request : Request σ) :
    ∃ answer extractor producers,
      session.serve request = ⟨extractor, producers, session.log ++ [⟨request, answer⟩]⟩ ∧
        Exchange.Changes ⟨request, answer⟩ session.extractor extractor := by
  have reading (run : Extraction σ Json) (reads : request.reads = true) :
      ∃ answer extractor producers, session.read request run =
        ⟨extractor, producers, session.log ++ [⟨request, answer⟩]⟩ ∧
          Exchange.Changes ⟨request, answer⟩ session.extractor extractor :=
    ⟨_, _, _, rfl, Exchange.changes_of_idle (.inl reads) _⟩
  have changing (result : Except Error (Extractor σ))
      (changes : ∀ next, result = .ok next →
        Exchange.Changes ⟨request, .ok none⟩ session.extractor next) :
      ∃ answer extractor producers, session.change request result =
        ⟨extractor, producers, session.log ++ [⟨request, answer⟩]⟩ ∧
          Exchange.Changes ⟨request, answer⟩ session.extractor extractor := by
    cases result with
    | ok next => exact ⟨_, _, _, rfl, changes next rfl⟩
    | error e => exact ⟨_, _, _, rfl, Exchange.changes_of_idle (.inr ⟨e, rfl⟩) _⟩
  cases request with
  | compile schema => exact changing _ fun _ => Exchange.changes_of_compile
  | install plan =>
    refine changing (.ok (session.extractor.withPlan plan)) ?_
    rintro _ ⟨⟩
    exact Exchange.changes_of_install session.extractor plan
  | register name operation => exact changing _ fun _ => Exchange.changes_of_register
  | registerCapability kind name operation =>
    refine changing (.ok (session.extractor.registerCapability kind name operation)) ?_
    rintro _ ⟨⟩
    exact Exchange.changes_of_registerCapability session.extractor kind name operation
  | extract | run | runText | runPlan => exact reading _ rfl

/-! ## A whole session -/

/-- The extractor holds what is in force, and compilations that are said to have succeeded have. -/
structure Kept (settings : Settings) (registry : Registry) (session : Session σ) : Prop where
  constant : session.extractor.settings = settings
  plan : session.extractor.plan? = planInForce settings session.log
  modifiers : ∀ name, session.extractor.registry.modifiers.get? name =
    modifierInForce registry session.log name
  capabilities : ∀ kind name, (session.extractor.registry.capabilities.operations kind).get? name =
    capabilityInForce registry session.log kind name
  compiled : ∀ schema answer, ⟨.compile schema, .ok answer⟩ ∈ session.log →
    ∃ plan, Plan.compile settings.maxDepth schema = .ok plan

variable {settings : Settings} {registry : Registry} {session : Session σ}

theorem kept_start (settings : Settings) (registry : Registry) (producers : σ) :
    Kept settings registry (start settings registry producers) where
  constant := rfl
  plan := rfl
  modifiers _ := rfl
  capabilities _ _ := rfl
  compiled _ _ member := absurd member List.not_mem_nil

theorem kept_serve (kept : Kept settings registry session) (request : Request σ) :
    Kept settings registry (session.serve request) := by
  obtain ⟨answer, extractor, producers, served, changes⟩ := session.serve_spec request
  obtain rfl := kept.constant
  rw [served]
  refine ⟨changes.settings, ?_, fun name => ?_, fun kind name => ?_, ?_⟩
  · rw [changes.plan, kept.plan, planInForce, planInForce, latest_concat]
  · rw [changes.modifiers, kept.modifiers, modifierInForce, modifierInForce, latest_concat,
      Option.or_assoc]
  · rw [changes.capabilities, kept.capabilities, capabilityInForce, capabilityInForce,
      latest_concat, Option.or_assoc]
  · intro schema answered member
    obtain earlier | here := List.mem_append.1 member
    · exact kept.compiled schema answered earlier
    · exact changes.compiled schema answered (List.mem_singleton.1 here).symm

theorem kept_after (kept : Kept settings registry session) (requests : List (Request σ)) :
    Kept settings registry (session.after requests) := by
  induction requests generalizing session with
  | nil => exact kept
  | cons request rest ih => exact ih (kept_serve kept request)

/-- The log says what was asked, in order. -/
theorem log_after (session : Session σ) (requests : List (Request σ)) :
    (session.after requests).log.map Exchange.request =
      session.log.map Exchange.request ++ requests := by
  induction requests generalizing session with
  | nil => simp [after]
  | cons request rest ih =>
    obtain ⟨answer, extractor, producers, served, _⟩ := session.serve_spec request
    rw [after, List.foldl_cons, ← after, ih, served]
    simp

theorem extractor_of_idle {request : Request σ} {answer : Except Error (Option Json)}
    (answered : (session.serve request).log = session.log ++ [⟨request, answer⟩])
    (idle : Exchange.Idle ⟨request, answer⟩) :
    (session.serve request).extractor = session.extractor := by
  obtain ⟨other, extractor, producers, served, changes⟩ := session.serve_spec request
  rw [served] at answered ⊢
  obtain rfl : other = answer := by simpa using answered
  exact changes.idle idle

end Session

/-! ## What a run depends on -/

/-- The extractors have the same settings, the same plan and the same bindings. -/
structure Extractor.Alike (first second : Extractor σ) : Prop where
  settings : first.settings = second.settings
  plan : first.plan? = second.plan?
  modifiers : ∀ name,
    first.registry.modifiers.get? name = second.registry.modifiers.get? name
  capabilities : ∀ kind name, (first.registry.capabilities.operations kind).get? name =
    (second.registry.capabilities.operations kind).get? name

theorem Extractor.run_of_alike {first second : Extractor σ} (alike : first.Alike second)
    (document : Json) : first.run document = second.run document := by
  unfold run
  rw [alike.plan]
  cases second.plan? with
  | none => rfl
  | some plan =>
    have agree (modifier : Modifier) (_ : plan.Refers modifier) :
        first.registry.Agree second.registry modifier :=
      Registry.agree_of_bindings alike.modifiers alike.capabilities modifier
    simp only [runPlan, alike.settings]
    exact Extraction.run_congr agree document

theorem Extractor.run_eq_extract {extractor : Extractor σ} {schema : Schema σ} {plan : Plan σ}
    (compiled : Plan.compile extractor.settings.maxDepth schema = .ok plan)
    (current : extractor.plan? = some plan) (document : Json) :
    extractor.run document = extractor.extract schema document := by
  simp only [run, extract, current, compiled]

namespace Session

theorem latest_of_quiet {α : Type} {puts : Exchange σ → Option α} {log : List (Exchange σ)}
    (quiet : ∀ exchange ∈ log, puts exchange = none) (earlier : List (Exchange σ))
    (exchange : Exchange σ) :
    latest puts (earlier ++ exchange :: log) = latest puts (earlier ++ [exchange]) := by
  have nothing : log.filterMap puts = [] := List.filterMap_eq_nil_iff.2 quiet
  rw [latest, latest, List.append_cons, List.filterMap_append, nothing, List.append_nil]

/-- After a compilation that nothing has replaced, a run is an extraction with the schema. -/
theorem Kept.run_eq_extract {settings : Settings} {registry : Registry} {session : Session σ}
    (kept : Kept settings registry session) {schema : Schema σ} {answer : Option Json}
    {earlier later : List (Exchange σ)}
    (split : session.log = earlier ++ ⟨.compile schema, .ok answer⟩ :: later)
    (quiet : ∀ exchange ∈ later, exchange.plan? settings = none) (document : Json) :
    session.extractor.run document = session.extractor.extract schema document := by
  have member : ⟨.compile schema, .ok answer⟩ ∈ session.log :=
    split ▸ List.mem_append_right earlier List.mem_cons_self
  obtain ⟨plan, compiled⟩ := kept.compiled schema answer member
  have current : session.extractor.plan? = some plan := by
    rw [kept.plan, planInForce, split, latest_of_quiet quiet, latest_concat, Exchange.plan?,
      compiled]
    rfl
  rw [← kept.constant] at compiled
  exact Extractor.run_eq_extract compiled current document

/-- **Sessions remember what succeeded.** After any requests an extractor has the settings that it
was given, the plan of the last compilation or installation that succeeded, if any, and for each name
the operation of the last registration that succeeded, over what its registry held from the start. A
request that is answered by an error leaves the extractor as it was, and so does every run. Hence
sessions with the same settings, and with the same plan and the same bindings in force, run alike,
however they came to these; and a plan compiled from a schema runs like an extraction with it. -/
theorem sessions_remember (settings : Settings) (registry : Registry) (producers : σ)
    (requests : List (Request σ)) :
    let session := (start settings registry producers).after requests
    session.log.map Exchange.request = requests ∧
    session.extractor.settings = settings ∧
    session.extractor.plan? = planInForce settings session.log ∧
    (∀ name, session.extractor.registry.modifiers.get? name =
      modifierInForce registry session.log name) ∧
    (∀ kind name, (session.extractor.registry.capabilities.operations kind).get? name =
      capabilityInForce registry session.log kind name) ∧
    (∀ request e, (session.serve request).log = session.log ++ [⟨request, .error e⟩] →
      (session.serve request).extractor = session.extractor) ∧
    (∀ request, request.reads = true →
      (session.serve request).extractor = session.extractor) ∧
    (∀ (others : Registry) (state : σ) (history : List (Request σ)),
      let other := (start settings others state).after history
      planInForce settings other.log = planInForce settings session.log →
      (∀ name, modifierInForce others other.log name =
        modifierInForce registry session.log name) →
      (∀ kind name, capabilityInForce others other.log kind name =
        capabilityInForce registry session.log kind name) →
      ∀ document, other.extractor.run document = session.extractor.run document) ∧
    ∀ schema answer earlier later,
      session.log = earlier ++ ⟨.compile schema, .ok answer⟩ :: later →
      (∀ exchange ∈ later, exchange.plan? settings = none) →
      ∀ document, session.extractor.run document = session.extractor.extract schema document := by
  intro session
  have kept : Kept settings registry session :=
    kept_after (kept_start settings registry producers) requests
  refine ⟨log_after _ requests, kept.constant, kept.plan, kept.modifiers, kept.capabilities,
    ?_, ?_, ?_, ?_⟩
  · intro request e refused
    exact extractor_of_idle refused (.inr ⟨e, rfl⟩)
  · intro request reads
    obtain ⟨answer, extractor, next, served, changes⟩ := session.serve_spec request
    rw [served]
    exact changes.idle (.inl reads)
  · intro others state history other samePlan sameModifiers sameCapabilities document
    have too : Kept settings others other := kept_after (kept_start settings others state) history
    refine Extractor.run_of_alike ⟨?_, ?_, fun name => ?_, fun kind name => ?_⟩ document
    · rw [too.constant, kept.constant]
    · rw [too.plan, kept.plan, samePlan]
    · rw [too.modifiers, kept.modifiers, sameModifiers]
    · rw [too.capabilities, kept.capabilities, sameCapabilities]
  · exact fun schema answer earlier later split quiet document =>
      kept.run_eq_extract split quiet document

/-- A modifier that greets everyone alike. -/
def greeting : Operation := fun _ => .string "hello"

/-- Compiles first, runs, and registers last. -/
def compileFirst : List (Request Nat) :=
  [.compile (Extraction.friendRules "greet"), .run Extraction.friends, .register "greet" greeting]

/-- Registers twice, is refused a blank name, and compiles last. -/
def compileLast : List (Request Nat) :=
  [.register "greet" fun _ => .null, .register "greet" greeting, .register " " greeting,
    .compile (Extraction.friendRules "greet")]

/-- Both orders come to the same plan with the same bindings and greet the same friends, as an
extraction with the schema does; a blank name is refused and changes nothing. -/
theorem orders_forgotten :
    let first := (start .standard .initial 7).after compileFirst
    let second := (start .standard .initial 7).after compileLast
    (planInForce .standard second.log = planInForce .standard first.log ∧
      (∀ name, modifierInForce .initial second.log name =
        modifierInForce .initial first.log name) ∧
      (∀ kind name, capabilityInForce .initial second.log kind name =
        capabilityInForce .initial first.log kind name) ∧
      second.extractor.run Extraction.friends = first.extractor.run Extraction.friends) ∧
    (∃ e, (second.serve (.register " " greeting)).log =
        second.log ++ [⟨.register " " greeting, .error e⟩] ∧
      (second.serve (.register " " greeting)).extractor = second.extractor) ∧
    (Request.reads (.run Extraction.friends : Request Nat) = true ∧
      (first.serve (.run Extraction.friends)).extractor = first.extractor) ∧
    ∃ answer later, first.log = ⟨.compile (Extraction.friendRules "greet"), .ok answer⟩ :: later ∧
      (∀ exchange ∈ later, exchange.plan? .standard = none) ∧
      first.extractor.run Extraction.friends =
        first.extractor.extract (Extraction.friendRules "greet") Extraction.friends := by
  intro first second
  have compiled : Plan.compile 32 (Extraction.friendRules "greet") =
      .ok (Extraction.friendPlan "greet") :=
    Extraction.friendRules_compile (by decide)
  have named : Text.isBlankText "greet" = false := by decide
  have blank : Text.isBlankText " " = true := by decide
  obtain ⟨ran, firstLog⟩ : ∃ answer, first.log =
      [⟨.compile (Extraction.friendRules "greet"), .ok none⟩, ⟨.run Extraction.friends, answer⟩,
        ⟨.register "greet" greeting, .ok none⟩] := by
    simp [first, compileFirst, start, after, serve, change, read, Extractor.compile,
      Extractor.register, Extractor.ofRegistry, Registry.register, Settings.standard, compiled,
      named, bind, Except.bind, pure, Except.pure]
  obtain ⟨refusal, secondLog⟩ : ∃ e, second.log =
      [⟨.register "greet" fun _ => .null, .ok none⟩, ⟨.register "greet" greeting, .ok none⟩,
        ⟨.register " " greeting, .error e⟩,
        ⟨.compile (Extraction.friendRules "greet"), .ok none⟩] := by
    simp [second, compileLast, start, after, serve, change, Extractor.compile,
      Extractor.register, Extractor.ofRegistry, Registry.register, Settings.standard, compiled,
      named, blank, bind, Except.bind, pure, Except.pure]
  have samePlan : planInForce .standard second.log = planInForce .standard first.log := by
    rw [firstLog, secondLog]
    simp [planInForce, latest, List.findSome?_cons, Exchange.plan?]
  have sameModifiers : ∀ name, modifierInForce .initial second.log name =
      modifierInForce .initial first.log name := by
    intro name
    rw [firstLog, secondLog]
    by_cases same : "greet" = name
    · simp [modifierInForce, latest, List.filterMap_cons, Exchange.modifier?, same]
    · simp [modifierInForce, latest, List.filterMap_cons, Exchange.modifier?, same]
  have sameCapabilities : ∀ kind name, capabilityInForce .initial second.log kind name =
      capabilityInForce .initial first.log kind name := by
    intro kind name
    rw [firstLog, secondLog]
    rfl
  have refused : (second.serve (.register " " greeting)).log = second.log ++
      [⟨.register " " greeting, .error (.invalidModifier "registry" (Text.quotedName " "))⟩] := by
    simp [serve, Extractor.register, Registry.register, blank, bind, Except.bind, change]
  have quiet : ∀ exchange ∈ ([⟨.run Extraction.friends, ran⟩,
      ⟨.register "greet" greeting, .ok none⟩] : List (Exchange Nat)),
      exchange.plan? .standard = none := by
    intro exchange member
    simp only [List.mem_cons, List.not_mem_nil, or_false] at member
    obtain rfl | rfl := member
    · rfl
    · rfl
  obtain ⟨_, _, _, _, _, _, reads, alike, extracts⟩ :=
    sessions_remember .standard .initial 7 compileFirst
  obtain ⟨_, _, _, _, _, keeps, _⟩ := sessions_remember .standard .initial 7 compileLast
  exact ⟨⟨samePlan, sameModifiers, sameCapabilities,
      alike .initial 7 compileLast samePlan sameModifiers sameCapabilities _⟩,
    ⟨_, refused, keeps _ _ refused⟩, ⟨rfl, reads _ rfl⟩, none, _, firstLog, quiet,
    extracts _ none [] _ firstLog quiet _⟩

end Session

end Reshape
