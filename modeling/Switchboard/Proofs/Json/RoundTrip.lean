/-
# Printed values are read back

A value without doubles is printed as a document that is read as its term (`read?_chars`): the same
tree, with the texts still in pieces.  The document is cut into tokens part by part (`Cuts`); only
behind a numeral does it matter what comes next.
-/
import Switchboard.Proofs.Json.Quoted
import Switchboard.Proofs.Json.Tokens
import Switchboard.Proofs.Json.Written
import Switchboard.Proofs.Number.Digits
import Switchboard.Proofs.Text.Run

namespace Switchboard.Json

open Switchboard.Number (isDigit)
open Switchboard.Text (Ends)

/-! ## The term of a value -/

/-- A value in which every number is whole. -/
inductive Exact : Json → Prop where
  | null : Exact .null
  | bool (b : Bool) : Exact (.bool b)
  | whole (n : Int) : Exact (.number (.whole n))
  | text (s : String) : Exact (.text s)
  | array {items : List Json} (h : ∀ v ∈ items, Exact v) : Exact (.array items)
  | object {members : List (String × Json)} (h : ∀ m ∈ members, Exact m.2) :
      Exact (.object members)

/-- The term of a number; a double is left out. -/
def Number.term : Number → Term
  | .whole (.ofNat n) => .number ⟨false, Nat.toDigits 10 n, none, none⟩
  | .whole (.negSucc n) => .number ⟨true, Nat.toDigits 10 (n + 1), none, none⟩
  | .double _ => .null

mutual

/-- The term that a printed value is read as. -/
def term : Json → Term
  | .null => .null
  | .bool b => .bool b
  | .number n => n.term
  | .text s => .text (pieces s)
  | .array items => .array (itemTerms items)
  | .object members => .object (memberTerms members)

/-- The terms of items. -/
def itemTerms : List Json → List Term
  | [] => []
  | v :: rest => v.term :: itemTerms rest

/-- The terms of members. -/
def memberTerms : List (String × Json) → List (List Piece × Term)
  | [] => []
  | (k, v) :: rest => (pieces k, v.term) :: memberTerms rest

end

theorem itemTerms_eq (items : List Json) : itemTerms items = items.map term := by
  induction items with
  | nil => rfl
  | cons v rest ih => rw [itemTerms, ih, List.map_cons]

theorem memberTerms_eq (members : List (String × Json)) :
    memberTerms members = members.map fun m => (pieces m.1, m.2.term) := by
  induction members with
  | nil => rfl
  | cons m rest ih => rw [memberTerms, ih, List.map_cons]

/-! ## Texts that are cut into tokens -/

/-- Whether a character could go on with a numeral. -/
def goesOn (c : Char) : Bool := isDigit c || c = '.' || c = 'e' || c = 'E'

/-- A text that is cut into a row of tokens, whatever has been cut before and whatever follows, as
long as that does not go on with a numeral. -/
def Cuts (s : List Char) (ts : List Token) : Prop :=
  ∀ out rest, Ends goesOn rest → tokensFrom out (s ++ rest) = tokensFrom (ts.reverse ++ out) rest

/-- A text that does not go on with a numeral, or else leaves it to what follows. -/
def Fresh (s : List Char) : Prop := ∀ rest, Ends goesOn rest → Ends goesOn (s ++ rest)

theorem fresh_nil : Fresh [] := fun _ h => h

theorem fresh_cons {c : Char} (h : goesOn c = false) (s : List Char) : Fresh (c :: s) :=
  fun _ _ => Text.ends_cons.mpr h

theorem Fresh.append {s s' : List Char} (h : Fresh s) (h' : Fresh s') : Fresh (s ++ s') := by
  intro rest hrest
  rw [List.append_assoc]
  exact h _ (h' rest hrest)

/-- A first token is put to those that have been cut. -/
theorem tokensFrom_cons {c : Char} {s rest : List Char} {t : Token} (hspace : isSpace c = false)
    (h : scanToken? c s = some (t, rest)) (out : List Token) :
    tokensFrom out (c :: s) = tokensFrom (t :: out) rest := by
  rw [tokensFrom]
  simp only [hspace, Bool.false_eq_true, if_false]
  split
  · rename_i heq
    obtain ⟨rfl, rfl⟩ := Prod.mk.inj (Option.some.inj (h.symm.trans heq))
    rfl
  · rename_i heq
    cases h.symm.trans heq

namespace Cuts

theorem nil : Cuts [] [] := fun _ _ _ => rfl

theorem append {s s' : List Char} {ts ts' : List Token} (h : Cuts s ts) (h' : Cuts s' ts')
    (hfresh : Fresh s') : Cuts (s ++ s') (ts ++ ts') := by
  intro out rest hrest
  rw [List.append_assoc, h out (s' ++ rest) (hfresh rest hrest), h' _ rest hrest]
  simp

/-- A mark is a token by itself. -/
theorem mark {c : Char} {t : Token} (hspace : isSpace c = false)
    (hmark : ∀ rest, scanToken? c rest = some (t, rest)) {s : List Char} {ts : List Token}
    (h : Cuts s ts) : Cuts (c :: s) (t :: ts) := by
  intro out rest hrest
  rw [List.cons_append, tokensFrom_cons hspace (hmark _), h _ rest hrest]
  simp

theorem single {c : Char} {s : List Char} {t : Token} (hspace : isSpace c = false)
    (h : ∀ rest, Ends goesOn rest → scanToken? c (s ++ rest) = some (t, rest)) :
    Cuts (c :: s) [t] := by
  intro out rest hrest
  rw [List.cons_append, tokensFrom_cons hspace (h rest hrest)]
  rfl

theorem flatMap {α : Type} {f : α → List Char} {g : α → List Token} {l : List α}
    (hcut : ∀ a ∈ l, Cuts (f a) (g a)) (hfresh : ∀ a, Fresh (f a)) :
    Cuts (l.flatMap f) (l.flatMap g) ∧ Fresh (l.flatMap f) := by
  induction l with
  | nil => exact ⟨nil, fresh_nil⟩
  | cons a rest ih =>
      obtain ⟨hrest, hfrest⟩ := ih fun b hb => hcut b (List.mem_cons_of_mem a hb)
      exact ⟨(hcut a List.mem_cons_self).append hrest hfrest, (hfresh a).append hfrest⟩

/-- A mark, a first part, a row of others and a mark. -/
theorem container {c d : Char} {t t' : Token} (hspace : isSpace c = false)
    (hmark : ∀ rest, scanToken? c rest = some (t, rest)) (hspace' : isSpace d = false)
    (hmark' : ∀ rest, scanToken? d rest = some (t', rest)) (hclose : goesOn d = false)
    {s r : List Char} {ts rs : List Token} (h : Cuts s ts) (hr : Cuts r rs ∧ Fresh r) :
    Cuts (c :: (s ++ (r ++ [d]))) (t :: (ts ++ (rs ++ [t']))) := by
  have hfresh : Fresh [d] := fresh_cons hclose []
  exact (h.append (hr.1.append (nil.mark hspace' hmark') hfresh) (hr.2.append hfresh)).mark hspace
    hmark

end Cuts

/-! ## Numerals and texts -/

theorem ends_isDigit {s : List Char} (h : Ends goesOn s) : Ends isDigit s := by
  intro c hc
  have hgoes := h c hc
  simp only [goesOn, Bool.or_eq_false_iff] at hgoes
  exact hgoes.1.1.1

theorem scanWhole?_toDigits (n : Nat) {rest : List Char} (hrest : Ends isDigit rest) :
    scanWhole? (Nat.toDigits 10 n ++ rest) = some (Nat.toDigits 10 n, rest) := by
  rcases Nat.eq_zero_or_pos n with rfl | hn
  · rfl
  · have hdigits : ∀ c ∈ Nat.toDigits 10 n, isDigit c = true :=
      fun c => Number.isDigit_of_mem_toDigits
    unfold scanWhole?
    split
    · rename_i s hs
      refine absurd ?_ (Number.head?_toDigits_ne_zero hn)
      cases hd : Nat.toDigits 10 n with
      | nil => exact absurd hd Nat.toDigits_ne_nil
      | cons c digits =>
          rw [hd] at hs
          exact congrArg some (List.cons.inj hs).1
    · simp only [Text.takeWhile_append hdigits hrest, Text.dropWhile_append hdigits hrest]
      exact if_neg (by simp)

/-- A number in decimal is scanned as a numeral without fraction and exponent. -/
theorem scanNumeral?_toDigits (negative : Bool) (n : Nat) {rest : List Char}
    (hrest : Ends goesOn rest) :
    scanNumeral? negative (Nat.toDigits 10 n ++ rest)
      = some (⟨negative, Nat.toDigits 10 n, none, none⟩, rest) := by
  have hfraction : scanFraction? rest = some (none, rest) := by
    unfold scanFraction?
    split
    · exact absurd (Text.ends_cons.mp hrest) (by decide)
    · rfl
  have hexponent : scanExponent? rest = some (none, rest) := by
    cases rest with
    | nil => rfl
    | cons c rest =>
        have hc := Text.ends_cons.mp hrest
        simp only [goesOn, Bool.or_eq_false_iff, decide_eq_false_iff_not] at hc
        simp [scanExponent?, hc]
  simp only [scanNumeral?, Option.bind_eq_bind, scanWhole?_toDigits n (ends_isDigit hrest),
    Option.bind_some, hfraction, hexponent]

theorem scanToken?_digit {c : Char} (hc : isDigit c = true) (s : List Char) :
    scanToken? c s = (scanNumeral? false (c :: s)).map fun found => (.number found.1, found.2) := by
  unfold scanToken?
  split
  all_goals first | rfl | exact absurd hc (by decide)

theorem isSpace_of_isDigit {c : Char} (hc : isDigit c = true) : isSpace c = false := by
  refine Bool.eq_false_iff.mpr fun h => ?_
  simp only [isSpace, Bool.or_eq_true, decide_eq_true_eq] at h
  rcases h with ((rfl | rfl) | rfl) | rfl <;> exact absurd hc (by decide)

theorem cuts_whole (n : Int) : Cuts (toString n).toList (Number.whole n).term.tokens := by
  cases n with
  | ofNat n =>
      have hchars : (toString (Int.ofNat n)).toList = Nat.toDigits 10 n := Nat.toList_repr
      rw [hchars]
      cases hd : Nat.toDigits 10 n with
      | nil => exact absurd hd Nat.toDigits_ne_nil
      | cons c digits =>
          have hc : isDigit c = true :=
            Number.isDigit_of_mem_toDigits (hd ▸ List.mem_cons_self : c ∈ Nat.toDigits 10 n)
          have htokens : (Number.whole (Int.ofNat n)).term.tokens
              = [.number ⟨false, c :: digits, none, none⟩] := by
            rw [← hd]
            rfl
          rw [htokens]
          refine Cuts.single (isSpace_of_isDigit hc) fun rest hrest => ?_
          rw [scanToken?_digit hc, ← List.cons_append, ← hd, scanNumeral?_toDigits false n hrest]
          rfl
  | negSucc n =>
      have hchars : (toString (Int.negSucc n)).toList = '-' :: Nat.toDigits 10 (n + 1) := by
        show ("-" ++ Nat.repr (n + 1)).toList = _
        rw [String.toList_append, Nat.toList_repr]
        rfl
      rw [hchars]
      refine Cuts.single rfl fun rest hrest => ?_
      show (scanNumeral? true _).map _ = _
      rw [scanNumeral?_toDigits true (n + 1) hrest]
      rfl

theorem cuts_quoted (s : String) : Cuts (quoted s) [.text (pieces s)] := by
  have hquoted : quoted s = '"' :: (s.toList.flatMap escape ++ ['"']) := rfl
  rw [hquoted]
  refine Cuts.single rfl fun rest _ => ?_
  show (scanText [] _).map _ = _
  rw [List.append_assoc, List.singleton_append, scanText_quoted]
  rfl

/-! ## Values -/

theorem itemTokens_map (items : List Json) :
    itemTokens (items.map term) = items.flatMap fun v => .comma :: v.term.tokens := by
  induction items with
  | nil => rfl
  | cons v rest ih => rw [List.map_cons, itemTokens, ih, List.flatMap_cons, List.cons_append]

theorem memberTokens_map (members : List (String × Json)) :
    memberTokens (members.map fun m => (pieces m.1, m.2.term))
      = members.flatMap fun m => .comma :: .text (pieces m.1) :: .colon :: m.2.term.tokens := by
  induction members with
  | nil => rfl
  | cons m rest ih =>
      rw [List.map_cons, memberTokens, ih, List.flatMap_cons, List.cons_append, List.cons_append,
        List.cons_append]

theorem cuts_member {m : String × Json} (h : Cuts m.2.chars m.2.term.tokens) :
    Cuts (memberText m) (.text (pieces m.1) :: .colon :: m.2.term.tokens) :=
  (cuts_quoted m.1).append (h.mark rfl fun _ => rfl) (fresh_cons rfl _)

/-- A value without doubles is cut into the tokens of its term. -/
theorem cuts_chars {v : Json} (h : Exact v) : Cuts v.chars v.term.tokens := by
  induction h with
  | null => exact Cuts.single rfl fun _ _ => rfl
  | bool b => cases b <;> exact Cuts.single rfl fun _ _ => rfl
  | whole n =>
      have hchars : (Json.number (.whole n)).chars = (toString n).toList := by
        simp [chars, writeOnto, Number.chars]
      rw [hchars]
      exact cuts_whole n
  | text s =>
      have hchars : (Json.text s).chars = quoted s := by
        simp [chars, writeOnto]
      rw [hchars]
      exact cuts_quoted s
  | @array items _ ih =>
      cases items with
      | nil => exact Cuts.nil.mark rfl (fun _ => rfl) |>.mark rfl fun _ => rfl
      | cons v rest =>
          have hitems := Cuts.flatMap (l := rest) (f := fun v => ',' :: v.chars)
            (g := fun v => .comma :: v.term.tokens)
            (fun v hv => (ih v (List.mem_cons_of_mem _ hv)).mark rfl fun _ => rfl)
            fun v => fresh_cons rfl _
          rw [chars_array, term, itemTerms_eq, List.map_cons, Term.tokens, itemTokens_map]
          exact (ih v List.mem_cons_self).container rfl (fun _ => rfl) rfl (fun _ => rfl) rfl hitems
  | @object members _ ih =>
      cases members with
      | nil => exact Cuts.nil.mark rfl (fun _ => rfl) |>.mark rfl fun _ => rfl
      | cons m rest =>
          have hmembers := Cuts.flatMap (l := rest) (f := fun m => ',' :: memberText m)
            (g := fun m => .comma :: .text (pieces m.1) :: .colon :: m.2.term.tokens)
            (fun m hm => (cuts_member (ih m (List.mem_cons_of_mem _ hm))).mark rfl fun _ => rfl)
            fun m => fresh_cons rfl _
          rw [chars_object, term, memberTerms_eq, List.map_cons, Term.tokens, memberTokens_map]
          exact (cuts_member (ih m List.mem_cons_self)).container rfl (fun _ => rfl) rfl
            (fun _ => rfl) rfl hmembers

/-- A value without doubles is read as its term. -/
theorem read?_chars {v : Json} (h : Exact v) : Term.read? v.chars = some v.term := by
  refine read?_of_tokens ?_
  have hcut := cuts_chars h [] [] Text.ends_nil
  rw [List.append_nil, List.append_nil] at hcut
  rw [tokens?, hcut, tokensFrom]
  simp

end Switchboard.Json
