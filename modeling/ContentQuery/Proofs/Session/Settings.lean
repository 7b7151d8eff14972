import ContentQuery.Proofs.Session.Steps
import Mathlib.Data.List.DropRight

/-!
# Settings of a session

What a compilation is compiled with is told by the operations before it: by the compiler that was
last set up and the catalogs, changes, content types and clocks that were given since. The time is
not among these settings. A clock that shows the present time is read anew by each compilation.

The main statement is that the replies of a session are those of single compilations with the
settings told so, and that operations which give no setting bear on no reply but reports and the
log.
-/

namespace ContentQuery

namespace Operation

def construction? : Operation → Option Compiler
  | replace compiler => some compiler
  | setUp optionsText fieldsText clock =>
    (Compiler.ofDocuments optionsText fieldsText).toOption.map (Compiler.withClock · clock)
  | _ => none

def publication? : Operation → Option FieldCatalog
  | publish catalog => some catalog
  | _ => none

def catalogChange? : Operation → Option (FieldCatalog → FieldCatalog)
  | update change => some change
  | _ => none

def registration? (handler : Handler) : Operation → Option String
  | registerType registered contentType =>
    if registered.id = handler.id then some contentType else none
  | _ => none

def clock? : Operation → Option Clock
  | setClock clock => some clock
  | _ => none

/-- The operation may give a setting. -/
def configures : Operation → Bool
  | replace _ | setUp _ _ _ | registerType _ _ | setClock _ | publish _ | update _ => true
  | options | compile _ _ _ | report | reset | takeLog => false

/-- The operation asks for what was recorded of the ones before it. -/
def asksRecord : Operation → Bool
  | report | takeLog => true
  | _ => false

variable {Setting : Type} {given? : Operation → Option Setting} {past : List Operation}
  {operation : Operation}

def lastGiven (given? : Operation → Option Setting) (past : List Operation) : Option Setting :=
  (past.filterMap given?).getLast?

/-- The operations after the last one that gives a setting. -/
def sinceGiven (given? : Operation → Option Setting) (past : List Operation) : List Operation :=
  past.rtakeWhile fun operation => (given? operation).isNone

example (catalog : FieldCatalog) (change : FieldCatalog → FieldCatalog) :
    sinceGiven publication? [.publish catalog, .report, .update change] =
      [.report, .update change] :=
  rfl

theorem lastGiven_concat :
    lastGiven given? (past ++ [operation]) = (given? operation).or (lastGiven given? past) := by
  cases given : given? operation <;> simp [lastGiven, given]

theorem sinceGiven_concat :
    sinceGiven given? (past ++ [operation]) =
      if (given? operation).isNone then sinceGiven given? past ++ [operation] else [] := by
  rw [sinceGiven, sinceGiven, List.rtakeWhile_concat]

/-! ### One operation -/

variable {compiler built : Compiler} {since : List Operation}

theorem after_of_construction? (constructs : operation.construction? = some built) :
    compiler.after operation = built := by
  cases operation with
  | replace other => exact Option.some.inj constructs
  | setUp optionsText fieldsText clock =>
      rw [construction?] at constructs
      rw [Compiler.after, constructs, Option.getD_some]
  | _ => cases constructs

/-- An operation that sets no compiler up keeps the one in use, but for the settings that
it gives. -/
theorem after_of_construction?_eq_none (compiler : Compiler)
    (stays : operation.construction? = none) :
    (compiler.after operation).catalog =
        operation.catalogChange?.getD id (operation.publication?.getD compiler.catalog) ∧
      (∀ handler, (compiler.after operation).registry.typeName? handler =
        (operation.registration? handler).or (compiler.registry.typeName? handler)) ∧
      (compiler.after operation).options = compiler.options ∧
      (compiler.after operation).clock = operation.clock?.getD compiler.clock := by
  cases operation with
  | replace other => cases stays
  | setUp optionsText fieldsText clock =>
      rw [construction?] at stays
      rw [Compiler.after, stays]
      exact ⟨rfl, fun _ => rfl, rfl, rfl⟩
  | registerType registered contentType =>
      refine ⟨rfl, fun handler => ?_, rfl, rfl⟩
      rw [Compiler.after, Compiler.registerType, TypeRegistry.typeName?_register, registration?]
      split <;> rfl
  | _ => exact ⟨rfl, fun _ => rfl, rfl, rfl⟩

/-! ### All operations -/

/-- Where operations lead that set no compiler up: each setting is the last one given, or else as in
the compiler before them, and catalogs are changed by the changes since. -/
structure LeadTo (built : Compiler) (since : List Operation) (compiler : Compiler) : Prop where
  catalog : compiler.catalog =
    ((sinceGiven publication? since).filterMap catalogChange?).foldl
      (fun catalog change => change catalog)
      ((lastGiven publication? since).getD built.catalog)
  registry : ∀ handler, compiler.registry.typeName? handler =
    (lastGiven (registration? handler) since).or (built.registry.typeName? handler)
  options : compiler.options = built.options
  clock : compiler.clock = (lastGiven clock? since).getD built.clock

theorem leadTo_nil (built : Compiler) : LeadTo built [] built :=
  ⟨rfl, fun _ => rfl, rfl, rfl⟩

theorem LeadTo.concat (leads : LeadTo built since compiler)
    (stays : operation.construction? = none) :
    LeadTo built (since ++ [operation]) (compiler.after operation) := by
  rcases leads with ⟨catalog, registry, options, clock⟩
  rcases after_of_construction?_eq_none compiler stays with
    ⟨afterCatalog, afterRegistry, afterOptions, afterClock⟩
  constructor
  · rw [afterCatalog, lastGiven_concat, sinceGiven_concat]
    -- a publication makes the changes before it count no longer
    cases operation with
    | publish published => simp [publication?, catalogChange?]
    | update change => simp [publication?, catalogChange?, catalog]
    | _ => simpa [publication?, catalogChange?, List.filterMap_cons] using catalog
  · intro handler
    rw [lastGiven_concat, Option.or_assoc, ← registry handler]
    exact afterRegistry handler
  · exact afterOptions.trans options
  · rw [afterClock, lastGiven_concat]
    cases operation.clock? with
    | some given => rfl
    | none => exact clock

/-- The settings that a compiler has after operations are those that were given since the last of
them that set one up. -/
theorem leadTo_afterAll (initial : Compiler) (past : List Operation) :
    LeadTo ((lastGiven construction? past).getD initial) (sinceGiven construction? past)
      (initial.afterAll past) := by
  induction past using List.reverseRecOn with
  | nil => exact leadTo_nil initial
  | append_singleton past operation ih =>
      have one : initial.afterAll (past ++ [operation]) = (initial.afterAll past).after operation :=
        initial.afterAll_append past [operation]
      rw [one, lastGiven_concat, sinceGiven_concat]
      cases constructs : operation.construction? with
      | none => exact ih.concat constructs
      | some built =>
          rw [after_of_construction? constructs]
          exact leadTo_nil built

/-- Operations that give no setting leave no trace in the compiler. -/
theorem afterAll_filter_configures (compiler : Compiler) (operations : List Operation) :
    compiler.afterAll (operations.filter configures) = compiler.afterAll operations := by
  induction operations generalizing compiler with
  | nil => rfl
  | cons operation operations ih =>
      cases operation <;> exact ih _

end Operation

/-! ### Replies -/

def Reply.ofSetup : Except SetupError Compiler → Reply
  | .ok _ => done
  | .error error => setupFailed error

/-- The reply to an operation by a compiler, if it does not ask for what was recorded. -/
def Compiler.reply? (compiler : Compiler) : Operation → Option Reply
  | .replace _ | .registerType _ _ | .setClock _ | .update _ | .reset => some .done
  | .setUp optionsText fieldsText _ => some (.ofSetup (ofDocuments optionsText fieldsText))
  | .options => some (.options compiler.options)
  | .publish _ => some (.published compiler.catalog)
  | .compile query scope present =>
    some (.compiled
      ((query.compile (compiler.context present) scope).mapError (.map .ofCompileError)))
  | .report | .takeLog => none

namespace Session

variable {session : Session}

/-- The reply to a step is told by the compiler in use, whatever has been recorded. -/
theorem reply?_of_replyTo {step : Step} (noRecord : step.operation.asksRecord = false) :
    session.compiler.reply? step.operation = some (session.replyTo step) := by
  rcases step with ⟨compiler, sink, operation⟩
  cases operation with
  | setUp optionsText fieldsText clock =>
      rcases (session.under sink).perform_setUp_cases optionsText fieldsText clock with
        ⟨compiler, reads, performs⟩ | ⟨error, reads, performs⟩ <;>
        rw [replyTo, performs, Compiler.reply?, reads] <;> rfl
  | compile query scope present =>
      rw [Compiler.reply?, Query.compile_eq_map]
      rfl
  | report | takeLog => cases noRecord
  | _ => rfl

@[simp]
theorem length_replies (session : Session) (steps : List Step) :
    (session.replies steps).length = steps.length := by
  induction steps generalizing session with
  | nil => rfl
  | cons step steps ih => simp [replies, ih]

/-- The reply to an operation among others is that of the compiler that the ones before it
lead to. -/
theorem exists_reply_of_append {steps : List Step} {past later : List Operation}
    {operation : Operation}
    (splits : steps.map Step.operation = past ++ operation :: later) :
    ∃ reply, (session.replies steps)[past.length]? = some reply ∧
      (operation.asksRecord = false →
        (session.compiler.afterAll past).reply? operation = some reply) := by
  rcases List.map_eq_append_iff.mp splits with ⟨first, rest, rfl, rfl, splitsRest⟩
  rcases List.map_eq_cons_iff.mp splitsRest with ⟨step, second, rfl, rfl, rfl⟩
  refine ⟨(session.followAll first).replyTo step, ?_, ?_⟩
  · rw [replies_append, List.getElem?_append_right (by simp)]
    simp [replies]
  · rw [← compiler_followAll]
    exact reply?_of_replyTo

theorem replies_run (session : Session) (actions : List Action) :
    Answer.repliesOfAll (session.run actions).1 =
      session.replies (Action.traceAll session.compiler session.recorder.inForce actions).steps :=
  (follows_run.2 actions session).replies

end Session

end ContentQuery
