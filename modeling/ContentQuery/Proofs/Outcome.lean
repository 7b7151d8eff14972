import ContentQuery.CompileError

/-!
# Outcomes

Computations that can fail are taken apart by what they succeed with and by the errors that they can
fail with. Two computations are compared step by step: one mends the other if it does the same, but
may go on where the other fails with an error of a given kind; two agree if they do the same up to a
relation between their errors.
-/

namespace ContentQuery

variable {Error Value Result : Type}

theorem bind_eq_ok {outcome : Except Error Value} {next : Value → Except Error Result}
    {result : Result} :
    outcome >>= next = .ok result ↔ ∃ value, outcome = .ok value ∧ next value = .ok result := by
  cases outcome <;> simp [bind, Except.bind]

theorem bind_eq_error {outcome : Except Error Value} {next : Value → Except Error Result}
    {error : Error} :
    outcome >>= next = .error error ↔
      outcome = .error error ∨ ∃ value, outcome = .ok value ∧ next value = .error error := by
  cases outcome <;> simp [bind, Except.bind]

theorem map_eq_ok {outcome : Except Error Value} {change : Value → Result} {result : Result} :
    change <$> outcome = .ok result ↔ ∃ value, outcome = .ok value ∧ change value = result := by
  cases outcome <;> simp [Functor.map, Except.map]

theorem mapError_eq_ok {Other : Type} {outcome : Except Error Value} {convert : Error → Other}
    {value : Value} : outcome.mapError convert = .ok value ↔ outcome = .ok value := by
  cases outcome with
  | error cause => constructor <;> intro same <;> cases same
  | ok result => constructor <;> intro same <;> cases same <;> rfl

theorem map_eq_self {outcome : Except Error Value} {change : Value → Value}
    (unchanged : ∀ value, outcome = .ok value → change value = value) :
    change <$> outcome = outcome := by
  cases outcome with
  | error cause => rfl
  | ok value => exact congrArg Except.ok (unchanged value rfl)

/-- Two computations whose values correspond, step by step. -/
theorem map_bind_eq_map {Other OtherResult : Type} {outcome : Except Error Value}
    {next : Value → Except Error Result} {next' : Other → Except Error OtherResult}
    {change : Value → Other} {convert : Result → OtherResult}
    (rest : ∀ value, outcome = .ok value → next' (change value) = convert <$> next value) :
    (change <$> outcome) >>= next' = convert <$> (outcome >>= next) := by
  cases outcome with
  | error cause => rfl
  | ok value => exact rest value rfl

/-- What comes after a computation, which is nothing if that fails. -/
def metAfter {Met : Type} (outcome : Except Error Value) (next : Value → List Met) : List Met :=
  match outcome with
  | .ok value => next value
  | .error _ => []

theorem metAfter_of_eq_ok {Met : Type} {outcome : Except Error Value} {next : Value → List Met}
    {value : Value} (succeeds : outcome = .ok value) : metAfter outcome next = next value := by
  rw [succeeds]
  rfl

/-- If the computation fails, then with an error of the given kind. -/
def FailsWithin (kind : Error → Prop) (outcome : Except Error Value) : Prop :=
  ∀ error, outcome = .error error → kind error

namespace FailsWithin

variable {kind wider : Error → Prop} {outcome : Except Error Value}

theorem ok (value : Value) : FailsWithin kind (.ok value) := by
  intro error fails
  cases fails

theorem error {cause : Error} (holds : kind cause) :
    FailsWithin kind (.error cause : Except Error Value) := by
  intro error fails
  cases fails
  exact holds

theorem weaken (within : FailsWithin kind outcome) (included : ∀ error, kind error → wider error) :
    FailsWithin wider outcome := by
  intro error fails
  exact included error (within error fails)

theorem bind {next : Value → Except Error Result} (first : FailsWithin kind outcome)
    (second : ∀ value, FailsWithin kind (next value)) : FailsWithin kind (outcome >>= next) := by
  cases outcome with
  | error cause => exact error (first cause rfl)
  | ok value => exact second value

theorem map {change : Value → Result} (first : FailsWithin kind outcome) :
    FailsWithin kind (change <$> outcome) := by
  cases outcome with
  | error cause => exact error (first cause rfl)
  | ok value => exact ok (change value)

theorem mapError {Other : Type} {otherKind : Other → Prop} {convert : Error → Other}
    (first : FailsWithin kind outcome)
    (converts : ∀ error, kind error → otherKind (convert error)) :
    FailsWithin otherKind (outcome.mapError convert) := by
  cases outcome with
  | error cause => exact error (converts cause (first cause rfl))
  | ok value => exact ok value

theorem mapM {values : List Value} {next : Value → Except Error Result}
    (each : ∀ value ∈ values, FailsWithin kind (next value)) :
    FailsWithin kind (values.mapM next) := by
  induction values with
  | nil => exact ok []
  | cons value values ih =>
      rcases List.forall_mem_cons.mp each with ⟨head, tail⟩
      rw [List.mapM_cons]
      apply head.bind
      intro result
      apply (ih tail).bind
      intro results
      exact ok (result :: results)

end FailsWithin

/-- The second outcome is the first one, unless the first is an error of the kind that is mended.
The second fails only with errors of the kind that is kept. -/
structure Mends (mended kept : Error → Prop) (first second : Except Error Value) : Prop where
  eq_or_mended : second = first ∨ ∃ error, mended error ∧ first = .error error
  within : FailsWithin kept second

namespace Mends

variable {mended kept : Error → Prop} {first second : Except Error Value}

theorem refl (within : FailsWithin kept first) : Mends mended kept first first :=
  ⟨.inl rfl, within⟩

theorem bind {next other : Value → Except Error Result} (outcome : Mends mended kept first second)
    (rest : ∀ value, Mends mended kept (next value) (other value)) :
    Mends mended kept (first >>= next) (second >>= other) := by
  rcases outcome with ⟨rfl | ⟨error, mends, rfl⟩, within⟩
  · cases second with
    | error cause => exact refl (.error (within cause rfl))
    | ok value => exact rest value
  · exact ⟨.inr ⟨error, mends, rfl⟩, within.bind fun value => (rest value).within⟩

theorem bind_of_ok {outcome : Except Error Value} {next other : Value → Except Error Result}
    (within : FailsWithin kept outcome)
    (rest : ∀ value, outcome = .ok value → Mends mended kept (next value) (other value)) :
    Mends mended kept (outcome >>= next) (outcome >>= other) := by
  cases outcome with
  | error cause => exact refl (.error (within cause rfl))
  | ok value => exact rest value rfl

theorem map {change : Value → Result} (outcome : Mends mended kept first second) :
    Mends mended kept (change <$> first) (change <$> second) := by
  rcases outcome with ⟨rfl | ⟨error, mends, rfl⟩, within⟩
  · exact refl within.map
  · exact ⟨.inr ⟨error, mends, rfl⟩, within.map⟩

theorem mapM {values : List Value} {next other : Value → Except Error Result}
    (each : ∀ value ∈ values, Mends mended kept (next value) (other value)) :
    Mends mended kept (values.mapM next) (values.mapM other) := by
  induction values with
  | nil => exact refl (.ok [])
  | cons value values ih =>
      rcases List.forall_mem_cons.mp each with ⟨head, tail⟩
      rw [List.mapM_cons, List.mapM_cons]
      apply head.bind
      intro result
      apply (ih tail).bind
      intro results
      exact refl (.ok (result :: results))

/-- Where nothing is mended, both outcomes are the same. -/
theorem eq_of_forall_not (outcome : Mends mended kept first second)
    (nothing : ∀ error, ¬ mended error) : first = second := by
  rcases outcome.eq_or_mended with same | ⟨error, mends, _⟩
  · exact same.symm
  · exact absurd mends (nothing error)

end Mends

/-- Both outcomes are the same success, or they are failures with related errors. -/
inductive Agree (related : Error → Error → Prop) : Except Error Value → Except Error Value → Prop
  | ok (value : Value) : Agree related (.ok value) (.ok value)
  | error {first second : Error} (errors : related first second) :
    Agree related (.error first) (.error second)

namespace Agree

variable {related : Error → Error → Prop}

theorem refl (reflexive : ∀ error, related error error) (outcome : Except Error Value) :
    Agree related outcome outcome := by
  cases outcome with
  | ok value => exact .ok value
  | error cause => exact .error (reflexive cause)

theorem bind (reflexive : ∀ error, related error error) (outcome : Except Error Value)
    {next other : Value → Except Error Result}
    (rest : ∀ value, Agree related (next value) (other value)) :
    Agree related (outcome >>= next) (outcome >>= other) := by
  cases outcome with
  | ok value => exact rest value
  | error cause => exact .error (reflexive cause)

end Agree

end ContentQuery
