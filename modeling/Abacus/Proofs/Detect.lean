import Abacus.Notation
import Abacus.Proofs.Lexer

/-!
# What the notation guess sees of the tokens

The guess reads characters and the lexer reads tokens, and on a text that lexes they agree:
the guess finds two numbers with only blanks between them exactly when a literal is followed
at once by a literal that is not negative (`runOfTwo_iff_numberPair`). A minus before a digit
begins a literal for the lexer but breaks the guess's run, so a negative literal never
completes a pair. The text looks like custom notation exactly when its first token is an
operator or a negative literal (`startsCustom_iff`).

The proof runs the two side by side: `runState` is the guess's run count and position for a
state of the lexer, and `pairPending` says the pending literal already completes a pair.
-/

namespace Abacus

namespace Token

/-- Somewhere a literal is followed at once by a literal that is not negative. -/
def NumberPair (ts : List Token) : Prop :=
  ∃ pre x y post, ts = pre ++ .num x :: .num y :: post ∧ y.neg = false

def headIsNum : List Token → Bool
  | .num _ :: _ => true
  | _ => false

/-- The guess's run count and whether it is inside a number, after the characters that
brought the lexer to the pending literal `p` and the output `acc`. -/
def runState (p : List Char) (acc : List Token) : Nat × Bool :=
  match p with
  | [] => (if headIsNum acc then 1 else 0, false)
  | p => if p = ['-'] then (0, false) else (1, true)

/-- The pending literal follows a literal and does not begin with a minus: the guess has
already found its pair. -/
def pairPending (p : List Char) (acc : List Token) : Prop :=
  headIsNum acc = true ∧ p ≠ [] ∧ p.getLast? ≠ some '-'

theorem numberPair_nil : ¬ NumberPair [] := by
  rintro ⟨pre, x, y, post, h, -⟩
  simp at h

theorem numberPair_append_singleton {ts : List Token} {t : Token} :
    NumberPair (ts ++ [t]) ↔
      NumberPair ts ∨ (∃ x, ts.getLast? = some (.num x)) ∧ ∃ y, t = .num y ∧ y.neg = false := by
  constructor
  · rintro ⟨pre, x, y, post, h, hy⟩
    rcases List.eq_nil_or_concat post with rfl | ⟨post, z, rfl⟩
    · have h' : ts ++ [t] = (pre ++ [.num x]) ++ [.num y] := by simpa using h
      obtain ⟨rfl, ht⟩ := List.append_inj' h' rfl
      exact .inr ⟨⟨x, by simp⟩, y, List.singleton_inj.mp ht, hy⟩
    · have h' : ts ++ [t] = (pre ++ .num x :: .num y :: post) ++ [z] := by simpa using h
      exact .inl ⟨pre, x, y, post, (List.append_inj' h' rfl).1, hy⟩
  · rintro (⟨pre, x, y, post, rfl, hy⟩ | ⟨⟨x, hx⟩, y, rfl, hy⟩)
    · exact ⟨pre, x, y, post ++ [t], by simp, hy⟩
    · obtain ⟨pre, rfl⟩ := List.getLast?_eq_some_iff.mp hx
      exact ⟨pre, x, y, [], by simp, hy⟩

theorem numberPair_reverse_cons {acc : List Token} {t : Token} :
    NumberPair (t :: acc).reverse ↔
      NumberPair acc.reverse ∨ headIsNum acc = true ∧ ∃ y, t = .num y ∧ y.neg = false := by
  rw [List.reverse_cons, numberPair_append_singleton, List.getLast?_reverse]
  have hh : (∃ x, acc.head? = some (.num x)) ↔ headIsNum acc = true := by
    match acc with
    | [] | .op _ :: _ | .lparen :: _ | .rparen :: _ => simp [headIsNum]
    | .num x :: _ => simp [headIsNum]
  rw [hh]

theorem runState_nil_of_not_num {t : Token} (ht : ∀ y, t ≠ .num y) (acc : List Token) :
    runState [] (t :: acc) = (0, false) := by
  cases t with
  | num y => exact absurd rfl (ht y)
  | op _ | lparen | rparen => rfl

theorem ofChar?_not_num {c : Char} {t : Token} (h : ofChar? c = some t) : ∀ y, t ≠ .num y := by
  intro y
  rcases ofChar?_some_cases h with ⟨o, -, rfl⟩ | ⟨-, rfl⟩ | ⟨-, rfl⟩ <;> simp

/-! ## The guess, one character at a time -/

theorem runOfTwo_cons_num {c : Char} (hd : c.isDigit = true ∨ c = '.') (rest : List Char)
    (n : Nat) (inside : Bool) :
    Notation.runOfTwo (c :: rest) n inside =
      if inside then Notation.runOfTwo rest n true
      else if 1 ≤ n then true else Notation.runOfTwo rest (n + 1) true := by
  simp [Notation.runOfTwo, hd]

theorem runOfTwo_cons_space {c : Char} (hd : ¬(c.isDigit = true ∨ c = '.'))
    (hs : Text.isSpace c = true) (rest : List Char) (n : Nat) (inside : Bool) :
    Notation.runOfTwo (c :: rest) n inside = Notation.runOfTwo rest n false := by
  simp only [Notation.runOfTwo, if_neg hd, hs, if_true]

theorem runOfTwo_cons_other {c : Char} (hd : ¬(c.isDigit = true ∨ c = '.'))
    (hs : Text.isSpace c = false) (rest : List Char) (n : Nat) (inside : Bool) :
    Notation.runOfTwo (c :: rest) n inside = Notation.runOfTwo rest 0 false := by
  simp only [Notation.runOfTwo, if_neg hd, hs, Bool.false_eq_true, if_false]

theorem flush_ok_detect {p : List Char} {acc acc' : List Token} (h : flush p acc = .ok acc') :
    runState [] acc' = ((runState p acc).1, false) ∧
      (NumberPair acc'.reverse ↔ NumberPair acc.reverse ∨ pairPending p acc) := by
  by_cases hp : p = []
  · subst hp
    cases h
    simp [runState, pairPending]
  · have hm : p ≠ ['-'] := by
      rintro rfl
      exact flush_minus acc acc' h
    obtain ⟨y, rfl, hy⟩ := flush_ok_of_ne_nil hp h
    obtain ⟨c, p, rfl⟩ := List.exists_cons_of_ne_nil hp
    refine ⟨by simp [runState, headIsNum, hm], ?_⟩
    rw [numberPair_reverse_cons]
    simp only [pairPending, ne_eq, hp, not_false_eq_true, true_and, Token.num.injEq,
      exists_eq_left', ← hy, Bool.not_eq_true]

theorem runOfTwo_push {c : Char} (hd : c.isDigit = true ∨ c = '.') (p : List Char)
    (acc : List Token) (rest : List Char) :
    (pairPending (c :: p) acc ∨
        Notation.runOfTwo rest (runState (c :: p) acc).1 (runState (c :: p) acc).2 = true) ↔
      (pairPending p acc ∨
        Notation.runOfTwo (c :: rest) (runState p acc).1 (runState p acc).2 = true) := by
  have hc : c ≠ '-' := by rintro rfl; simp at hd
  have hstate : runState (c :: p) acc = (1, true) := by simp [runState, hc]
  rw [hstate, runOfTwo_cons_num hd]
  match p with
  | [] =>
    cases hn : headIsNum acc <;> simp [pairPending, runState, hn, hc]
  | c' :: p' =>
    by_cases hm : c' :: p' = ['-']
    · obtain ⟨rfl, rfl⟩ : c' = '-' ∧ p' = [] := by simpa using hm
      simp [pairPending, runState]
    · simp [pairPending, runState, hm]

theorem scanFrom_numberPair {cs p : List Char} {acc ts : List Token}
    (h : scanFrom cs p acc = .ok ts) :
    NumberPair ts ↔ NumberPair acc.reverse ∨ pairPending p acc ∨
      Notation.runOfTwo cs (runState p acc).1 (runState p acc).2 = true := by
  induction cs generalizing p acc with
  | nil =>
    obtain ⟨acc', hf, rfl⟩ := scanFrom_nil_ok h
    rw [(flush_ok_detect hf).2]
    simp [Notation.runOfTwo]
  | cons c rest ih =>
    rcases scanFrom_cons_ok h with ⟨rfl, rfl, -, h⟩ | ⟨hd, h⟩ | ⟨hd, hs, acc', hf, h⟩ |
      ⟨hd, hs, acc', t, hf, ht, h⟩
    · -- a minus begins a literal, and breaks the guess's run
      rw [ih h, runOfTwo_cons_other (by decide) (by decide)]
      simp [pairPending, runState]
    · rw [ih h]
      exact or_congr_right (runOfTwo_push hd p acc rest)
    · obtain ⟨hstate, hpair⟩ := flush_ok_detect hf
      rw [ih h, hpair, hstate, runOfTwo_cons_space hd hs]
      simp [pairPending, or_assoc]
    · obtain ⟨-, hpair⟩ := flush_ok_detect hf
      have hnot := ofChar?_not_num ht
      rw [ih h, numberPair_reverse_cons, hpair, runOfTwo_cons_other hd hs,
        runState_nil_of_not_num hnot]
      simp [pairPending, or_assoc, hnot]

end Token

namespace Notation

/-- On a text that lexes, the guess finds two numbers with only blanks between them exactly
when the tokens hold a literal followed at once by one that is not negative. -/
theorem runOfTwo_iff_numberPair {s : String} {ts : List Token} (h : Token.scan s = .ok ts) :
    runOfTwo s.toList 0 false = true ↔ Token.NumberPair ts := by
  have h := Token.scanFrom_numberPair h
  simp only [List.reverse_nil, Token.pairPending, ne_eq, not_true_eq_false, false_and,
    and_false, Token.runState, Token.headIsNum] at h
  simpa [Token.numberPair_nil] using h.symm

/-- On a text that lexes to some first token, the text looks like custom notation exactly when
that token is an operator or a negative literal. -/
theorem startsCustom_iff {s : String} {t : Token} {ts : List Token}
    (h : Token.scan s = .ok (t :: ts)) :
    startsCustom s.toList = true ↔ (∃ o, t = .op o) ∨ ∃ x, t = .num x ∧ x.neg = true := by
  have h' : Token.scanFrom (Text.dropSpaces s.toList) [] [] = .ok (t :: ts) := by
    rw [Token.scanFrom_dropSpaces]
    exact h
  unfold startsCustom
  cases hd : Text.dropSpaces s.toList with
  | nil =>
    rw [hd] at h'
    cases h'
  | cons c rest =>
    rw [hd] at h'
    have hc : Text.isSpace c = false := by
      have := List.head?_dropWhile_not Text.isSpace s.toList
      rw [← Text.dropSpaces, hd] at this
      simpa using this
    simp only
    rcases Token.scanFrom_cons_ok h' with ⟨rfl, -, -, h'⟩ | ⟨hn, h'⟩ | ⟨-, hs, -⟩ |
      ⟨-, -, acc', t', hf, ht, h'⟩
    · -- a minus before a digit: the first token is a negative literal
      obtain ⟨y, more, heq, hy⟩ := Token.scanFrom_ok_pending (List.cons_ne_nil _ _) h'
      obtain ⟨rfl, -⟩ := List.cons.inj heq
      simp [Op.ofChar?, hy.mpr rfl]
    · -- a digit or a point: the first token is a literal that is not negative
      obtain ⟨y, more, heq, hy⟩ := Token.scanFrom_ok_pending (List.cons_ne_nil c []) h'
      obtain ⟨rfl, -⟩ := List.cons.inj heq
      have hc' : c ≠ '-' := by rintro rfl; simp at hn
      have hy' : y.neg = false := by simpa [hc'] using hy
      simp [Op.ofChar?_num hn, hy']
    · rw [hc] at hs
      cases hs
    · -- an operator or a parenthesis is the first token
      cases hf
      obtain ⟨more, heq⟩ := Token.scanFrom_ok_acc h'
      obtain ⟨rfl, -⟩ := List.cons.inj heq
      rcases Token.ofChar?_some_cases ht with ⟨o, ho, rfl⟩ | ⟨rfl, rfl⟩ | ⟨rfl, rfl⟩
      · simp [ho]
      · simp [show Op.ofChar? '(' = none from rfl]
      · simp [show Op.ofChar? ')' = none from rfl]

theorem startsCustom_eq_false {s : String} {t : Token} {ts : List Token}
    (hs : Token.scan s = .ok (t :: ts)) (ht : t = .lparen ∨ ∃ x, t = .num x ∧ x.neg = false) :
    startsCustom s.toList = false := by
  cases hsc : startsCustom s.toList with
  | false => rfl
  | true =>
    rcases (startsCustom_iff hs).mp hsc with ⟨o, rfl⟩ | ⟨x, rfl, hx⟩
    · rcases ht with h | ⟨x, h, -⟩ <;> cases h
    · rcases ht with h | ⟨y, h, hy⟩
      · cases h
      · cases h
        rw [hy] at hx
        cases hx

theorem detect_of_startsCustom_false {s : String} {ts : List Token} (hs : Token.scan s = .ok ts)
    (h : startsCustom s.toList = false) :
    (detect s = .reversePolish ↔ Token.NumberPair ts) ∧
      (detect s = .algebraic ↔ ¬ Token.NumberPair ts) := by
  rw [← runOfTwo_iff_numberPair hs]
  simp only [detect, h, Bool.false_eq_true, if_false]
  cases runOfTwo s.toList 0 false <;> simp

theorem startsCustom_eq_false_of_head {cs : List Char}
    (h : ∀ c ∈ (cs.dropWhile Text.isSpace).head?, c ∉ ['+', '-', '*', '/', '^']) :
    startsCustom cs = false := by
  unfold startsCustom Text.dropSpaces
  cases hd : cs.dropWhile Text.isSpace with
  | nil => rfl
  | cons c rest =>
    have hc := h c (by simp [hd])
    cases ho : Op.ofChar? c with
    | none => simp [ho]
    | some o =>
      rw [Op.ofChar?_eq_some ho] at hc
      cases o <;> simp [Op.symbol] at hc

/-- A text that lexes, does not begin with an operator, and has no minus before a digit other than
right after a digit or a point has no negative literal; the guess then reads it as reverse Polish
exactly when two literals stand side by side in its tokens, and as algebraic notation
otherwise. -/
theorem detect_iff_adjacent_literals {s : String} {ts : List Token} (hs : Token.scan s = .ok ts)
    (hfirst : ∀ c ∈ (s.toList.dropWhile Text.isSpace).head?, c ∉ ['+', '-', '*', '/', '^'])
    (hminus : ∀ pre d post, s.toList = pre ++ '-' :: d :: post → d.isDigit = true →
      ∃ e ∈ pre.getLast?, e.isDigit = true ∨ e = '.') :
    (detect s = .reversePolish ↔ ∃ pre x y post, ts = pre ++ .num x :: .num y :: post) ∧
      (detect s = .algebraic ↔ ¬ ∃ pre x y post, ts = pre ++ .num x :: .num y :: post) := by
  -- every minus before a digit follows a digit or a point, so none of them signs a literal
  have hnonneg : ∀ x, .num x ∈ ts → x.neg = false := by
    intro x hx
    cases hneg : x.neg with
    | false => rfl
    | true =>
      obtain ⟨pre, d, post, heq, hd, hpre⟩ :=
        Token.scanFrom_neg_literal hs (by simp) (by simp) hx hneg
      obtain ⟨e, he, hdot⟩ := hminus pre d post heq hd
      rcases hpre with ⟨rfl, -⟩ | ⟨e', he', hnd⟩
      · simp at he
      · rw [Option.mem_def] at he he'
        rw [he, Option.some.injEq] at he'
        subst he'
        exact absurd hdot hnd
  have hpair : Token.NumberPair ts ↔ ∃ pre x y post, ts = pre ++ .num x :: .num y :: post := by
    constructor
    · rintro ⟨pre, x, y, post, h, -⟩
      exact ⟨pre, x, y, post, h⟩
    · rintro ⟨pre, x, y, post, h⟩
      exact ⟨pre, x, y, post, h, hnonneg y (by simp [h])⟩
  rw [← hpair]
  exact detect_of_startsCustom_false hs (startsCustom_eq_false_of_head hfirst)

/-- `1 2 +` has two literals side by side and is guessed to be reverse Polish. -/
theorem detect_iff_adjacent_literals_sum :
    Token.scan "1 2 +" = .ok [.num (.ofNat 1), .num (.ofNat 2), .op .add] ∧
      detect "1 2 +" = .reversePolish := by
  have hs : Token.scan "1 2 +" = .ok [.num (.ofNat 1), .num (.ofNat 2), .op .add] := rfl
  refine ⟨hs, (detect_iff_adjacent_literals hs (by simp [Text.isSpace]) ?_).1.mpr
    ⟨[], _, _, _, rfl⟩⟩
  intro pre d post h
  have hmem : '-' ∈ "1 2 +".toList := by
    rw [h]
    simp
  exact absurd hmem (by simp)

end Notation

end Abacus
