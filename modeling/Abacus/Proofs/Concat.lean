import Abacus.Proofs.Lexer

/-!
# Lexing a text joined at one character

The lexer looks one character ahead, at whether a digit follows, so it is no fold over the
characters. `Token.step` is what it does with one character once that is known, and
`scanFrom_cons` writes the lexer as those steps. A run over `a ++ s` then hands its pending
literal and its tokens across the cut (`scanFrom_append`), as long as the cut does not part a
minus from the digit it would sign; whether a literal is pending at the cut is read off the
last character of `a` (`Pending`).

A blank, an operator or a parenthesis ends the literal before it and starts none, so the two
sides of it lex apart: the tokens of `a ++ c :: b` are those of `a`, the token of `c` and
those of `b`, with an error of `a` first (`scanFrom_append_separator`). A minus with a digit
after it and no literal pending before it signs the first literal of `b` instead
(`scanFrom_append_sign`). Both cases make up `scan_append_separator`.
-/

namespace Abacus

theorem Decimal.ofLiteral?_of_head {cs : List Char} (h : cs.head? ≠ some '-') :
    Decimal.ofLiteral? cs = (Decimal.ofUnsigned? cs).map fun (c, e) => ⟨false, c, e⟩ := by
  unfold Decimal.ofLiteral?
  split
  · simp at h
  · rfl

namespace Token

def emit (c : Char) : Except Error (List Token) :=
  if Text.isSpace c then .ok []
  else
    match ofChar? c with
    | some t => .ok [t]
    | none => .error (.unexpectedChar c)

def step (c : Char) (digitFollows : Bool) (p : List Char) (acc : List Token) :
    Except Error (List Char × List Token) :=
  if c = '-' ∧ p.isEmpty ∧ digitFollows then .ok (['-'], acc)
  else if c.isDigit ∨ c = '.' then .ok (c :: p, acc)
  else (flush p acc).bind fun acc' => (emit c).map fun ts => ([], ts ++ acc')

theorem scanFrom_cons (c : Char) (rest p : List Char) (acc : List Token) :
    scanFrom (c :: rest) p acc =
      (step c (digitNext rest) p acc).bind fun r => scanFrom rest r.1 r.2 := by
  simp only [scanFrom, step]
  by_cases hm : c = '-' ∧ p.isEmpty = true ∧ digitNext rest = true
  · simp only [if_pos hm]
    rfl
  simp only [if_neg hm]
  by_cases hd : c.isDigit = true ∨ c = '.'
  · simp only [if_pos hd]
    rfl
  simp only [if_neg hd, emit]
  by_cases hs : Text.isSpace c = true
  · simp only [if_pos hs]
    cases flush p acc <;> rfl
  simp only [if_neg hs]
  cases flush p acc with
  | error e => rfl
  | ok acc' => cases ofChar? c <;> rfl

theorem step_congr_next {c : Char} {b b' : Bool} (h : c = '-' → b = b') (p : List Char)
    (acc : List Token) : step c b p acc = step c b' p acc := by
  by_cases hc : c = '-'
  · rw [h hc]
  · simp only [step, hc, false_and, if_false]

theorem flush_append_acc (p : List Char) (acc' acc : List Token) :
    flush p (acc' ++ acc) = (flush p acc').map (· ++ acc) := by
  unfold flush
  by_cases hp : p.isEmpty = true
  · simp only [if_pos hp]
    rfl
  · simp only [if_neg hp]
    cases Decimal.ofLiteral? p.reverse <;> rfl

theorem step_append_acc (c : Char) (b : Bool) (p : List Char) (acc' acc : List Token) :
    step c b p (acc' ++ acc) = (step c b p acc').map fun r => (r.1, r.2 ++ acc) := by
  unfold step
  by_cases hm : c = '-' ∧ p.isEmpty = true ∧ b = true
  · simp only [if_pos hm]
    rfl
  simp only [if_neg hm]
  by_cases hd : c.isDigit = true ∨ c = '.'
  · simp only [if_pos hd]
    rfl
  simp only [if_neg hd, flush_append_acc]
  cases flush p acc' with
  | error e => rfl
  | ok acc'' => cases emit c <;> simp [Except.bind, Except.map]

theorem scanFrom_append_acc (cs p : List Char) (acc' acc : List Token) :
    scanFrom cs p (acc' ++ acc) = (scanFrom cs p acc').map (acc.reverse ++ ·) := by
  induction cs generalizing p acc' with
  | nil =>
    simp only [scanFrom, flush_append_acc]
    cases flush p acc' <;> simp [Except.map]
  | cons c rest ih =>
    rw [scanFrom_cons, scanFrom_cons, step_append_acc]
    cases step c (digitNext rest) p acc' with
    | error e => rfl
    | ok r => exact ih r.1 r.2

theorem scanFrom_acc (cs p : List Char) (acc : List Token) :
    scanFrom cs p acc = (scanFrom cs p []).map (acc.reverse ++ ·) :=
  scanFrom_append_acc cs p [] acc

def Pending (a p : List Char) : Prop :=
  match a.getLast? with
  | some e => e.isDigit = true ∨ e = '.'
  | none => p ≠ []

theorem pending_singleton (c : Char) (p : List Char) : Pending [c] p ↔ c.isDigit = true ∨ c = '.' :=
  Iff.rfl

theorem pending_cons {c : Char} {rest : List Char} (h : rest ≠ []) (p q : List Char) :
    Pending (c :: rest) p ↔ Pending rest q := by
  obtain ⟨init, e, rfl⟩ := List.eq_nil_or_concat rest |>.resolve_left h
  simp only [Pending, ← List.cons_append, List.getLast?_concat, List.concat_eq_append]

theorem step_ok_pending {c : Char} {p p' : List Char} {acc acc' : List Token}
    (h : step c false p acc = .ok (p', acc')) : p' ≠ [] ↔ c.isDigit = true ∨ c = '.' := by
  unfold step at h
  simp only [Bool.false_eq_true, and_false, if_false] at h
  by_cases hd : c.isDigit = true ∨ c = '.'
  · simp only [if_pos hd, Except.ok.injEq, Prod.mk.injEq] at h
    obtain ⟨rfl, -⟩ := h
    simp [hd]
  simp only [if_neg hd] at h
  refine iff_of_false ?_ hd
  cases hf : flush p acc with
  | error e => simp [hf, Except.bind] at h
  | ok acc'' =>
    cases he : emit c <;> simp [hf, he, Except.bind, Except.map] at h
    exact fun hp => hp h.1

theorem scanFrom_append (a s p : List Char) (acc : List Token)
    (hcut : a.getLast? = some '-' → digitNext s = false) :
    (∃ p' acc', scanFrom a p acc = (flush p' acc').map List.reverse ∧
        scanFrom (a ++ s) p acc = scanFrom s p' acc' ∧ (p' ≠ [] ↔ Pending a p)) ∨
      ∃ e, scanFrom a p acc = .error e ∧ scanFrom (a ++ s) p acc = .error e := by
  induction a generalizing p acc with
  | nil => exact .inl ⟨p, acc, rfl, rfl, Iff.rfl⟩
  | cons c rest ih =>
    -- only the last character of `a` sees past the cut
    have hnext : c = '-' → digitNext (rest ++ s) = digitNext rest := by
      intro hc
      cases rest with
      | nil => simpa [digitNext] using hcut (by simp [hc])
      | cons d rest => rfl
    have hrest : rest.getLast? = some '-' → digitNext s = false := fun h =>
      hcut (by simp [List.getLast?_cons, h])
    rw [List.cons_append, scanFrom_cons, scanFrom_cons, step_congr_next hnext]
    cases hstep : step c (digitNext rest) p acc with
    | error e => exact .inr ⟨e, rfl, rfl⟩
    | ok r =>
      rcases ih r.1 r.2 hrest with ⟨p', acc', h₁, h₂, h₃⟩ | ⟨e, h₁, h₂⟩
      · refine .inl ⟨p', acc', h₁, h₂, ?_⟩
        by_cases hne : rest = []
        · subst hne
          rw [h₃, pending_singleton]
          exact step_ok_pending hstep
        · rw [h₃, pending_cons hne p r.1]
      · exact .inr ⟨e, h₁, h₂⟩

/-! ## Blanks, operators and parentheses -/

theorem ofChar?_eq_none_of_isSpace {c : Char} (h : Text.isSpace c = true) : ofChar? c = none := by
  cases ht : ofChar? c with
  | none => rfl
  | some t =>
    rcases ofChar?_some_cases ht with ⟨o, ho, -⟩ | ⟨rfl, -⟩ | ⟨rfl, -⟩
    · rw [Op.ofChar?_eq_some ho] at h
      exact absurd h (by cases o <;> decide)
    all_goals exact absurd h (by decide)

theorem not_num_of_ofChar?_isSome {c : Char} (h : (ofChar? c).isSome = true) :
    ¬(c.isDigit = true ∨ c = '.') := by
  intro hd
  obtain ⟨t, ht⟩ := Option.isSome_iff_exists.mp h
  rcases ofChar?_some_cases ht with ⟨o, ho, -⟩ | ⟨rfl, -⟩ | ⟨rfl, -⟩
  · rw [Op.ofChar?_num hd] at ho
    cases ho
  all_goals revert hd; decide

theorem emit_separator {c : Char} (hc : Text.isSpace c = true ∨ (ofChar? c).isSome = true) :
    emit c = .ok (ofChar? c).toList := by
  unfold emit
  by_cases hs : Text.isSpace c = true
  · rw [if_pos hs, ofChar?_eq_none_of_isSpace hs]
    rfl
  · rw [if_neg hs]
    obtain ⟨t, ht⟩ := Option.isSome_iff_exists.mp (hc.resolve_left hs)
    rw [ht]
    rfl

theorem scanFrom_separator {c : Char} {b p : List Char} {acc : List Token}
    (hc : Text.isSpace c = true ∨ (ofChar? c).isSome = true)
    (hsign : ¬(c = '-' ∧ p = [] ∧ digitNext b = true)) :
    scanFrom (c :: b) p acc = (flush p acc).bind fun acc' =>
      (scanFrom b [] []).map fun tb => acc'.reverse ++ (ofChar? c).toList ++ tb := by
  have hd : ¬(c.isDigit = true ∨ c = '.') := by
    rcases hc with hs | hs
    · exact Text.isSpace_not_num hs
    · exact not_num_of_ofChar?_isSome hs
  have hm : ¬(c = '-' ∧ p.isEmpty = true ∧ digitNext b = true) := by
    simpa only [List.isEmpty_iff] using hsign
  rw [scanFrom_cons]
  simp only [step, if_neg hm, if_neg hd, emit_separator hc]
  cases flush p acc with
  | error e => rfl
  | ok acc' =>
    show scanFrom b [] ((ofChar? c).toList ++ acc') = _
    rw [← List.nil_append ((ofChar? c).toList ++ acc'), scanFrom_append_acc]
    cases ofChar? c <;> simp [Except.bind]

theorem pending_nil_iff (a : List Char) :
    Pending a [] ↔ ∃ e ∈ a.getLast?, e.isDigit = true ∨ e = '.' := by
  unfold Pending
  cases a.getLast? <;> simp

theorem scanFrom_append_separator {a b : List Char} {c : Char}
    (hc : Text.isSpace c = true ∨ (ofChar? c).isSome = true)
    (hsign : c = '-' → digitNext b = true → Pending a []) :
    scanFrom (a ++ c :: b) [] [] = (scanFrom a [] []).bind fun ta =>
      (scanFrom b [] []).map fun tb => ta ++ (ofChar? c).toList ++ tb := by
  have hd : c.isDigit = false := by
    rcases hc with hs | hs
    · simpa using fun h => Text.isSpace_not_num hs (.inl h)
    · simpa using fun h => not_num_of_ofChar?_isSome hs (.inl h)
  rcases scanFrom_append a (c :: b) [] [] (fun _ => hd) with ⟨p', acc', h₁, h₂, h₃⟩ | ⟨e, h₁, h₂⟩
  · rw [h₂, h₁, scanFrom_separator hc]
    · cases flush p' acc' <;> rfl
    · rintro ⟨rfl, rfl, hb⟩
      exact h₃.mpr (hsign rfl hb) rfl
  · rw [h₁, h₂]
    rfl

/-! ## A minus that signs a literal -/

theorem scanFrom_cons_num {c : Char} (hd : c.isDigit = true ∨ c = '.') (rest p : List Char)
    (acc : List Token) : scanFrom (c :: rest) p acc = scanFrom rest (c :: p) acc := by
  have hm : ¬(c = '-' ∧ p.isEmpty = true ∧ digitNext rest = true) := by
    rintro ⟨rfl, -⟩
    simp at hd
  rw [scanFrom_cons]
  simp only [step, if_neg hm, if_pos hd]
  rfl

theorem scanFrom_cons_sign {rest : List Char} (h : digitNext rest = true) (acc : List Token) :
    scanFrom ('-' :: rest) [] acc = scanFrom rest ['-'] acc := by
  rw [scanFrom_cons]
  simp only [step, h, List.isEmpty_nil, and_self, if_true]
  rfl

theorem flush_sign {p : List Char} {acc : List Token} {x : Decimal} (hl : p.getLast? ≠ some '-')
    (h : flush p acc = .ok (.num x :: acc)) : flush (p ++ ['-']) acc = .ok (.num x.negate :: acc) := by
  have hp : p ≠ [] := by
    rintro rfl
    exact List.cons_ne_self _ _ (Except.ok.inj h).symm
  unfold flush at h ⊢
  rw [if_neg (by simpa using hp), Decimal.ofLiteral?_of_head (by rwa [List.head?_reverse])] at h
  rw [if_neg (by simp), List.reverse_append, List.reverse_singleton, List.singleton_append]
  cases hu : Decimal.ofUnsigned? p.reverse with
  | none => simp [hu] at h
  | some ce =>
    simp only [hu, Option.map_some, Except.ok.injEq, List.cons.injEq, Token.num.injEq] at h
    obtain ⟨rfl, -⟩ := h
    simp [Decimal.ofLiteral?, hu, Decimal.negate]

theorem scanFrom_sign_pending {cs p : List Char} {acc more : List Token} {x : Decimal}
    (hp : p ≠ []) (hl : p.getLast? ≠ some '-')
    (h : scanFrom cs p acc = .ok (acc.reverse ++ .num x :: more)) :
    scanFrom cs (p ++ ['-']) acc = .ok (acc.reverse ++ .num x.negate :: more) := by
  induction cs generalizing p with
  | nil =>
    obtain ⟨acc', hf, hts⟩ := scanFrom_nil_ok h
    obtain ⟨y, rfl, -⟩ := flush_ok_of_ne_nil hp hf
    obtain ⟨rfl, rfl⟩ : x = y ∧ more = [] := by simpa using hts
    simp only [scanFrom, flush_sign hl hf]
    simp [Except.map]
  | cons c rest ih =>
    by_cases hd : c.isDigit = true ∨ c = '.'
    · rw [scanFrom_cons_num hd] at h ⊢
      have hl' : (c :: p).getLast? ≠ some '-' := by
        obtain ⟨b, l, rfl⟩ := List.exists_cons_of_ne_nil hp
        rwa [List.getLast?_cons_cons]
      exact ih (List.cons_ne_nil c p) hl' h
    -- any other character ends the literal, which is the next token either way
    have hm : ∀ q : List Char, q ≠ [] → ¬(c = '-' ∧ q.isEmpty = true ∧ digitNext rest = true) :=
      fun q hq hm => hq (List.isEmpty_iff.mp hm.2.1)
    rw [scanFrom_cons] at h ⊢
    simp only [step, if_neg (hm p hp), if_neg (hm (p ++ ['-']) (by simp)), if_neg hd] at h ⊢
    cases hf : flush p acc with
    | error e => simp [hf, Except.bind] at h
    | ok acc' =>
      obtain ⟨y, rfl, -⟩ := flush_ok_of_ne_nil hp hf
      rw [flush_sign hl hf]
      rw [hf] at h
      cases he : emit c with
      | error e => simp [he, Except.bind, Except.map] at h
      | ok ts =>
        simp only [he, Except.bind, Except.map] at h ⊢
        rw [scanFrom_acc] at h ⊢
        cases hb : scanFrom rest [] [] with
        | error e => simp [hb, Except.map] at h
        | ok tb =>
          simp only [hb, Except.map, Except.ok.injEq, List.reverse_append, List.reverse_cons,
            List.append_assoc, List.cons_append, List.append_cancel_left_eq,
            List.cons.injEq, Token.num.injEq] at h ⊢
          obtain ⟨rfl, rfl⟩ := h
          exact ⟨rfl, rfl⟩

theorem scanFrom_append_sign {a b : List Char} (hb : digitNext b = true) (ha : ¬ Pending a [])
    {x : Decimal} {rest : List Token} (h : scanFrom b [] [] = .ok (.num x :: rest)) :
    scanFrom (a ++ '-' :: b) [] [] = (scanFrom a [] []).map (· ++ .num x.negate :: rest) := by
  rcases scanFrom_append a ('-' :: b) [] [] (fun _ => rfl) with ⟨p', acc', h₁, h₂, h₃⟩ |
    ⟨e, h₁, h₂⟩
  · obtain rfl : p' = [] := Decidable.byContradiction fun hne => ha (h₃.mp hne)
    obtain ⟨d, b, rfl⟩ : ∃ d b', b = d :: b' := by
      cases b with
      | nil => cases hb
      | cons d b => exact ⟨d, b, rfl⟩
    have hd : d.isDigit = true ∨ d = '.' := .inl hb
    rw [scanFrom_cons_num hd] at h
    have hdm : d ≠ '-' := by
      rintro rfl
      simp [digitNext] at hb
    have hsign : scanFrom b [d, '-'] [] = .ok (.num x.negate :: rest) :=
      scanFrom_sign_pending (List.cons_ne_nil d []) (by simpa using hdm) h
    rw [h₂, h₁, scanFrom_cons_sign hb, scanFrom_cons_num hd, scanFrom_acc, hsign]
    rfl
  · rw [h₁, h₂]
    rfl

/-! ## Texts joined at one character -/

/-- A text joined at a blank, an operator or a parenthesis lexes to the tokens of the left
piece, the character's own token and the tokens of the right piece, an error of the left piece
coming first. A minus is the one exception: with no literal pending before it and a digit after
it, it signs the literal that follows. -/
theorem scan_append_separator (a b : String) (c : Char)
    (hc : Text.isSpace c = true ∨ c ∈ ['+', '-', '*', '/', '^', '(', ')']) :
    (¬(c = '-' ∧ digitNext b.toList = true ∧
        ∀ e ∈ a.toList.getLast?, ¬(e.isDigit = true ∨ e = '.')) →
      scan (a ++ String.singleton c ++ b) = do
        let ta ← scan a
        let tb ← scan b
        pure (ta ++ (ofChar? c).toList ++ tb)) ∧
    (c = '-' → digitNext b.toList = true →
      (∀ e ∈ a.toList.getLast?, ¬(e.isDigit = true ∨ e = '.')) →
      ∀ x rest, scan b = .ok (.num x :: rest) →
        scan (a ++ String.singleton c ++ b) = (scan a).map (· ++ .num x.negate :: rest)) := by
  have hc' : Text.isSpace c = true ∨ (ofChar? c).isSome = true := by
    refine hc.imp_right fun hm => ?_
    simp only [List.mem_cons, List.mem_nil_iff, or_false] at hm
    rcases hm with rfl | rfl | rfl | rfl | rfl | rfl | rfl <;> rfl
  have hjoin : (a ++ String.singleton c ++ b).toList = a.toList ++ c :: b.toList := by simp
  refine ⟨fun hne => ?_, fun hm hb ha x rest h => ?_⟩
  · have hsign : c = '-' → digitNext b.toList = true → Pending a.toList [] := fun hm hb =>
      (pending_nil_iff _).mpr <| Classical.byContradiction fun hnot =>
        hne ⟨hm, hb, fun e he hd => hnot ⟨e, he, hd⟩⟩
    unfold scan
    rw [hjoin, scanFrom_append_separator hc' hsign]
    cases scanFrom a.toList [] [] <;> cases scanFrom b.toList [] [] <;> rfl
  · subst hm
    have ha' : ¬ Pending a.toList [] := fun hp => by
      obtain ⟨e, he, hd⟩ := (pending_nil_iff _).mp hp
      exact ha e he hd
    unfold scan at h ⊢
    rw [hjoin, scanFrom_append_sign hb ha' h]

/-- After a digit a minus subtracts; after a parenthesis it signs the literal. -/
theorem scan_append_separator_minus :
    scan ("2" ++ String.singleton '-' ++ "3") = .ok [.num (.ofNat 2), .op .sub, .num (.ofNat 3)] ∧
      scan ("(" ++ String.singleton '-' ++ "5") = .ok [.lparen, .num (Decimal.ofNat 5).negate] := by
  constructor
  · rw [(scan_append_separator "2" "3" '-' (.inr (by simp))).1 (by simp [digitNext])]
    rfl
  · rw [(scan_append_separator "(" "5" '-' (.inr (by simp))).2 rfl (by simp [digitNext])
      (by simp) _ _ rfl]
    rfl

end Token

end Abacus
