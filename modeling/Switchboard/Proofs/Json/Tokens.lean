/-
# The tokens of a term

Every term has a row of tokens, and the reader takes the row for the term, whatever containers are
open around it (`run?_tokens`).  The induction is on the term; what has been read of a container so
far stands in its frame, so the statements about items and members are general in it.
-/
import Switchboard.Json.Reader

namespace Switchboard.Json

mutual

/-- The tokens of a term, from left to right. -/
def Term.tokens : Term → List Token
  | .null => [.null]
  | .bool b => [.bool b]
  | .number n => [.number n]
  | .text pieces => [.text pieces]
  | .array [] => [.openArray, .closeArray]
  | .array (t :: rest) => .openArray :: (t.tokens ++ (itemTokens rest ++ [.closeArray]))
  | .object [] => [.openObject, .closeObject]
  | .object ((key, t) :: rest) =>
    .openObject :: .text key :: .colon :: (t.tokens ++ (memberTokens rest ++ [.closeObject]))

/-- The tokens of the items after the first. -/
def itemTokens : List Term → List Token
  | [] => []
  | t :: rest => .comma :: (t.tokens ++ itemTokens rest)

/-- The tokens of the members after the first. -/
def memberTokens : List (List Piece × Term) → List Token
  | [] => []
  | (key, t) :: rest => .comma :: .text key :: .colon :: (t.tokens ++ memberTokens rest)

end

/-- The first token of a value is none that closes a list. -/
theorem run?_firstItem (frames : List Frame) (t : Term) (ts : List Token) :
    run? (.firstItem frames) (t.tokens ++ ts)
      = run? (.value (.array [] :: frames)) (t.tokens ++ ts) := by
  cases t with
  | null => rfl
  | bool b => rfl
  | number n => rfl
  | text pieces => rfl
  | array items => cases items <;> rfl
  | object members => cases members <;> rfl

mutual

/-- The tokens of a term are read as the term. -/
theorem run?_tokens : ∀ (t : Term) (frames : List Frame) (ts : List Token),
    run? (.value frames) (t.tokens ++ ts) = run? (.after t frames) ts
  | .null, _, _ => rfl
  | .bool _, _, _ => rfl
  | .number _, _, _ => rfl
  | .text _, _, _ => rfl
  | .array [], _, _ => rfl
  | .array (t :: rest), frames, ts => by
      have hopen : run? (.value frames) ((Term.array (t :: rest)).tokens ++ ts)
          = run? (.firstItem frames) (t.tokens ++ (itemTokens rest ++ .closeArray :: ts)) := by
        simp [Term.tokens, run?, step?, startValue?]
      rw [hopen, run?_firstItem, run?_tokens t, run?_itemTokens rest]
      rfl
  | .object [], _, _ => rfl
  | .object ((key, t) :: rest), frames, ts => by
      have hopen : run? (.value frames) ((Term.object ((key, t) :: rest)).tokens ++ ts)
          = run? (.value (.object [] key :: frames))
              (t.tokens ++ (memberTokens rest ++ .closeObject :: ts)) := by
        simp [Term.tokens, run?, step?, startValue?]
      rw [hopen, run?_tokens t, run?_memberTokens rest]
      rfl

theorem run?_itemTokens : ∀ (rest done : List Term) (t : Term) (frames : List Frame)
    (ts : List Token),
    run? (.after t (.array done :: frames)) (itemTokens rest ++ .closeArray :: ts)
      = run? (.after (.array (done.reverse ++ t :: rest)) frames) ts
  | [], _, _, _, _ => by
      simp [itemTokens, run?, step?, afterValue?]
  | next :: rest, done, t, frames, ts => by
      have hcomma : run? (.after t (.array done :: frames))
            (itemTokens (next :: rest) ++ .closeArray :: ts)
          = run? (.value (.array (t :: done) :: frames))
              (next.tokens ++ (itemTokens rest ++ .closeArray :: ts)) := by
        simp [itemTokens, run?, step?, afterValue?]
      rw [hcomma, run?_tokens next, run?_itemTokens rest]
      simp

theorem run?_memberTokens : ∀ (rest done : List (List Piece × Term)) (key : List Piece)
    (t : Term) (frames : List Frame) (ts : List Token),
    run? (.after t (.object done key :: frames)) (memberTokens rest ++ .closeObject :: ts)
      = run? (.after (.object (done.reverse ++ (key, t) :: rest)) frames) ts
  | [], _, _, _, _, _ => by
      simp [memberTokens, run?, step?, afterValue?]
  | (key', next) :: rest, done, key, t, frames, ts => by
      have hcomma : run? (.after t (.object done key :: frames))
            (memberTokens ((key', next) :: rest) ++ .closeObject :: ts)
          = run? (.value (.object ((key, t) :: done) key' :: frames))
              (next.tokens ++ (memberTokens rest ++ .closeObject :: ts)) := by
        simp [memberTokens, run?, step?, afterValue?]
      rw [hcomma, run?_tokens next, run?_memberTokens rest]
      simp

end

/-- A text that is cut into the tokens of a term is read as the term. -/
theorem read?_of_tokens {s : List Char} {t : Term} (h : tokens? s = some t.tokens) :
    Term.read? s = some t := by
  have hrun : run? (.value []) t.tokens = some (.after t []) := by
    rw [← List.append_nil t.tokens, run?_tokens]
    rfl
  rw [Term.read?, h]
  simp only [hrun]

end Switchboard.Json
