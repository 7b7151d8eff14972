import ContentQuery.Text.Quoted

/-!
# Raw fragments

A fragment of query text supplied by a caller is read only far enough to tell whether it is one
clause or several. A reader walks the fragment with the number of open parentheses, the quote it is
inside of, and whether the next character is escaped; a blank met outside all of these separates two
clauses.
-/

namespace ContentQuery.Text

/-- Where a reader stands between two characters of a fragment. -/
structure FragmentState where
  /-- Parentheses opened and not yet closed. -/
  depth : Nat := 0
  /-- The quote character of the run the reader is inside of. -/
  quote : Option Char := none
  /-- The next character is taken as it is. -/
  escaped : Bool := false
deriving DecidableEq, Repr

namespace FragmentState

/-- The state after one more character. A closing parenthesis without a partner is passed over. -/
def step (state : FragmentState) (char : Char) : FragmentState :=
  if state.escaped then { state with escaped := false }
  else if char = '\\' then { state with escaped := true }
  else
    match state.quote with
    | some opening => if char = opening then { state with quote := none } else state
    | none =>
      if char = '\x27' ∨ char = '\x22' then { state with quote := some char }
      else if char = '(' then { state with depth := state.depth + 1 }
      else if char = ')' then { state with depth := state.depth - 1 }
      else state

/-- A character separates clauses when it is a blank outside quotes, parentheses and escapes. -/
def separates (state : FragmentState) (char : Char) : Bool :=
  !state.escaped && state.quote.isNone && state.depth == 0 && isBlank char

/-- Some character of the fragment separates two clauses. -/
def splits (state : FragmentState) : List Char → Bool
  | [] => false
  | char :: rest => state.separates char || (state.step char).splits rest

end FragmentState

/-- Trimmed characters are composite when they carry a sign of their own or hold several clauses. -/
def isCompositeChars (chars : List Char) : Bool :=
  chars.head? == some '+' || chars.head? == some '-' || FragmentState.splits {} chars

/-- A fragment that has to be put in parentheses inside another composite. -/
def isComposite (fragment : String) : Bool :=
  isCompositeChars (trimChars fragment.toList)

end ContentQuery.Text
