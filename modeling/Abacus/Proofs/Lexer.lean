import Abacus.Token.Lexer

/-!
# What the lexer keeps and what it emits

One step of the lexer does one of four things (`scanFrom_cons_ok`): it begins a negative
literal, extends the pending literal, ends it at a blank, or ends it and emits an operator
or a parenthesis. From this alone: tokens once emitted stay in front of the output, a
pending literal is the next token emitted, negative exactly when it began with a minus, and
leading blanks change nothing, so the first token of a text is decided by its first
character that is not blank.
-/

namespace Abacus

theorem Decimal.ofLiteral?_neg {cs : List Char} {x : Decimal} (h : Decimal.ofLiteral? cs = some x) :
    x.neg = true ↔ cs.head? = some '-' := by
  unfold Decimal.ofLiteral? at h
  split at h
  · obtain ⟨⟨c, e⟩, -, rfl⟩ := Option.map_eq_some_iff.mp h
    simp
  · rename_i hne
    obtain ⟨⟨c, e⟩, -, rfl⟩ := Option.map_eq_some_iff.mp h
    simp only [Bool.false_eq_true, false_iff]
    intro hc
    cases cs with
    | nil => simp at hc
    | cons c cs =>
      simp only [List.head?_cons, Option.some.injEq] at hc
      exact hne cs (hc ▸ rfl)

theorem Text.isSpace_not_num {c : Char} (h : Text.isSpace c = true) :
    ¬(c.isDigit = true ∨ c = '.') := by
  rintro (hd | rfl)
  · have := Char.isDigit_iff_toNat.mp hd
    simp only [Text.isSpace, decide_eq_true_eq] at h
    simp only [Char.reduceToNat] at this
    omega
  · exact absurd h (by decide)

theorem Text.isSpace_ne_minus {c : Char} (h : Text.isSpace c = true) : c ≠ '-' := by
  rintro rfl
  exact absurd h (by decide)

theorem Op.ofChar?_eq_some {c : Char} {o : Op} (h : Op.ofChar? c = some o) : c = o.symbol := by
  unfold Op.ofChar? at h
  split at h <;> cases h <;> rfl

theorem Op.ofChar?_num {c : Char} (h : c.isDigit = true ∨ c = '.') : Op.ofChar? c = none := by
  cases ho : Op.ofChar? c with
  | none => rfl
  | some o =>
    have hc := Op.ofChar?_eq_some ho
    subst hc
    cases o <;> revert h <;> decide

namespace Token

/-! ## Flushing the pending literal -/

theorem flush_nil (acc : List Token) : flush [] acc = .ok acc := rfl

theorem flush_ok_of_ne_nil {p : List Char} {acc acc' : List Token} (hp : p ≠ [])
    (h : flush p acc = .ok acc') :
    ∃ y, acc' = .num y :: acc ∧ (y.neg = true ↔ p.getLast? = some '-') := by
  unfold flush at h
  rw [if_neg (by simpa using hp)] at h
  split at h
  · rename_i y hy
    cases h
    exact ⟨y, rfl, by rw [Decimal.ofLiteral?_neg hy, List.head?_reverse]⟩
  · cases h

theorem flush_minus (acc acc' : List Token) : flush ['-'] acc ≠ .ok acc' := by
  intro h
  cases h

theorem flush_ok_reverse {p : List Char} {acc acc' : List Token} (h : flush p acc = .ok acc') :
    ∃ more, acc'.reverse = acc.reverse ++ more := by
  by_cases hp : p = []
  · subst hp
    cases h
    exact ⟨[], by simp⟩
  · obtain ⟨y, rfl, -⟩ := flush_ok_of_ne_nil hp h
    exact ⟨[.num y], by simp⟩

/-! ## One step -/

theorem ofChar?_some_cases {c : Char} {t : Token} (h : ofChar? c = some t) :
    (∃ o, Op.ofChar? c = some o ∧ t = .op o) ∨ (c = '(' ∧ t = .lparen) ∨
      (c = ')' ∧ t = .rparen) := by
  unfold ofChar? at h
  cases ho : Op.ofChar? c with
  | some o =>
    rw [ho] at h
    exact .inl ⟨o, rfl, (Option.some.inj h).symm⟩
  | none =>
    rw [ho] at h
    by_cases hl : c = '('
    · rw [if_pos hl] at h
      exact .inr (.inl ⟨hl, (Option.some.inj h).symm⟩)
    rw [if_neg hl] at h
    by_cases hr : c = ')'
    · rw [if_pos hr] at h
      exact .inr (.inr ⟨hr, (Option.some.inj h).symm⟩)
    rw [if_neg hr] at h
    cases h

theorem scanFrom_nil_ok {p : List Char} {acc ts : List Token} (h : scanFrom [] p acc = .ok ts) :
    ∃ acc', flush p acc = .ok acc' ∧ ts = acc'.reverse := by
  simp only [scanFrom] at h
  cases hf : flush p acc with
  | error e => simp [hf, Except.map] at h
  | ok acc' =>
    simp only [hf, Except.map, Except.ok.injEq] at h
    exact ⟨acc', rfl, h.symm⟩

/-- What one step of the lexer does, when the whole pass succeeds. -/
theorem scanFrom_cons_ok {c : Char} {rest p : List Char} {acc ts : List Token}
    (h : scanFrom (c :: rest) p acc = .ok ts) :
    (c = '-' ∧ p = [] ∧ digitNext rest = true ∧ scanFrom rest ['-'] acc = .ok ts) ∨
    ((c.isDigit = true ∨ c = '.') ∧ scanFrom rest (c :: p) acc = .ok ts) ∨
    (¬(c.isDigit = true ∨ c = '.') ∧ Text.isSpace c = true ∧
      ∃ acc', flush p acc = .ok acc' ∧ scanFrom rest [] acc' = .ok ts) ∨
    (¬(c.isDigit = true ∨ c = '.') ∧ Text.isSpace c = false ∧
      ∃ acc' t, flush p acc = .ok acc' ∧ ofChar? c = some t ∧
        scanFrom rest [] (t :: acc') = .ok ts) := by
  -- the branches of `scanFrom`, in the order it tries them
  simp only [scanFrom] at h
  by_cases hm : c = '-' ∧ p.isEmpty = true ∧ digitNext rest = true
  · rw [if_pos hm] at h
    exact .inl ⟨hm.1, List.isEmpty_iff.mp hm.2.1, hm.2.2, h⟩
  rw [if_neg hm] at h
  by_cases hd : c.isDigit = true ∨ c = '.'
  · rw [if_pos hd] at h
    exact .inr (.inl ⟨hd, h⟩)
  rw [if_neg hd] at h
  by_cases hs : Text.isSpace c = true
  · rw [if_pos hs] at h
    split at h
    · rename_i acc' hf
      exact .inr (.inr (.inl ⟨hd, hs, acc', hf, h⟩))
    · cases h
  · rw [if_neg hs] at h
    split at h
    · rename_i acc' hf
      split at h
      · rename_i t ht
        exact .inr (.inr (.inr ⟨hd, by simpa using hs, acc', t, hf, ht, h⟩))
      · cases h
    · cases h

/-! ## Runs -/

theorem scanFrom_ok_acc {cs p : List Char} {acc ts : List Token} (h : scanFrom cs p acc = .ok ts) :
    ∃ more, ts = acc.reverse ++ more := by
  induction cs generalizing p acc with
  | nil =>
    obtain ⟨acc', hf, rfl⟩ := scanFrom_nil_ok h
    exact flush_ok_reverse hf
  | cons c rest ih =>
    rcases scanFrom_cons_ok h with ⟨-, -, -, h⟩ | ⟨-, h⟩ | ⟨-, -, acc', hf, h⟩ |
      ⟨-, -, acc', t, hf, -, h⟩
    · exact ih h
    · exact ih h
    · obtain ⟨more, rfl⟩ := ih h
      obtain ⟨more', hm⟩ := flush_ok_reverse hf
      exact ⟨more' ++ more, by simp [hm]⟩
    · obtain ⟨more, rfl⟩ := ih h
      obtain ⟨more', hm⟩ := flush_ok_reverse hf
      exact ⟨more' ++ t :: more, by simp [hm]⟩

theorem scanFrom_ok_pending {cs p : List Char} {acc ts : List Token} (hp : p ≠ [])
    (h : scanFrom cs p acc = .ok ts) :
    ∃ y more, ts = acc.reverse ++ .num y :: more ∧ (y.neg = true ↔ p.getLast? = some '-') := by
  induction cs generalizing p acc with
  | nil =>
    obtain ⟨acc', hf, rfl⟩ := scanFrom_nil_ok h
    obtain ⟨y, rfl, hy⟩ := flush_ok_of_ne_nil hp hf
    exact ⟨y, [], by simp, hy⟩
  | cons c rest ih =>
    rcases scanFrom_cons_ok h with ⟨-, rfl, -, -⟩ | ⟨-, h⟩ | ⟨-, -, acc', hf, h⟩ |
      ⟨-, -, acc', t, hf, -, h⟩
    · exact absurd rfl hp
    · obtain ⟨y, more, rfl, hy⟩ := ih (List.cons_ne_nil c p) h
      refine ⟨y, more, rfl, ?_⟩
      obtain ⟨b, l, rfl⟩ := List.exists_cons_of_ne_nil hp
      rw [hy, List.getLast?_cons_cons]
    · obtain ⟨y, rfl, hy⟩ := flush_ok_of_ne_nil hp hf
      obtain ⟨more, rfl⟩ := scanFrom_ok_acc h
      exact ⟨y, more, by simp, hy⟩
    · obtain ⟨y, rfl, hy⟩ := flush_ok_of_ne_nil hp hf
      obtain ⟨more, rfl⟩ := scanFrom_ok_acc h
      exact ⟨y, t :: more, by simp, hy⟩

theorem flush_ok_nonneg {p : List Char} {acc acc' : List Token} (h : flush p acc = .ok acc')
    (hp : p.getLast? ≠ some '-') (hacc : ∀ x, .num x ∈ acc → x.neg = false) :
    ∀ x, .num x ∈ acc' → x.neg = false := by
  by_cases hne : p = []
  · subst hne
    cases h
    exact hacc
  · obtain ⟨y, rfl, hy⟩ := flush_ok_of_ne_nil hne h
    intro x hx
    rcases List.mem_cons.mp hx with hx | hx
    · obtain rfl : x = y := Token.num.inj hx
      cases hneg : x.neg with
      | false => rfl
      | true => exact absurd (hy.mp hneg) hp
    · exact hacc x hx

theorem scanFrom_neg_literal {cs p : List Char} {acc ts : List Token}
    (h : scanFrom cs p acc = .ok ts) (hp : p.getLast? ≠ some '-')
    (hacc : ∀ x, .num x ∈ acc → x.neg = false) {x : Decimal} (hx : .num x ∈ ts)
    (hneg : x.neg = true) :
    ∃ pre d post, cs = pre ++ '-' :: d :: post ∧ d.isDigit = true ∧
      (pre = [] ∧ p = [] ∨ ∃ e ∈ pre.getLast?, ¬(e.isDigit = true ∨ e = '.')) := by
  induction cs generalizing p acc with
  | nil =>
    obtain ⟨acc', hf, rfl⟩ := scanFrom_nil_ok h
    have := flush_ok_nonneg hf hp hacc x (List.mem_reverse.mp hx)
    rw [hneg] at this
    cases this
  | cons c rest ih =>
    -- the minus sits after `c`, which is no digit or point when no literal is pending after it
    have after : ∀ q : List Char, (∃ pre d post, rest = pre ++ '-' :: d :: post ∧ d.isDigit = true ∧
        (pre = [] ∧ q = [] ∨ ∃ e ∈ pre.getLast?, ¬(e.isDigit = true ∨ e = '.'))) →
        (q = [] → ¬(c.isDigit = true ∨ c = '.')) →
        ∃ pre d post, c :: rest = pre ++ '-' :: d :: post ∧ d.isDigit = true ∧
          (pre = [] ∧ p = [] ∨ ∃ e ∈ pre.getLast?, ¬(e.isDigit = true ∨ e = '.')) := by
      rintro q ⟨pre, d, post, rfl, hd, hpre⟩ hq
      refine ⟨c :: pre, d, post, rfl, hd, .inr ?_⟩
      rcases hpre with ⟨rfl, rfl⟩ | ⟨e, he, hnd⟩
      · exact ⟨c, rfl, hq rfl⟩
      · obtain ⟨init, rfl⟩ := List.getLast?_eq_some_iff.mp he
        exact ⟨e, by simp [List.getLast?_cons], hnd⟩
    rcases scanFrom_cons_ok h with ⟨rfl, rfl, hnext, -⟩ | ⟨hd, h⟩ | ⟨hd, -, acc', hf, h⟩ |
      ⟨hd, -, acc', t, hf, ht, h⟩
    · -- the minus begins the literal
      obtain ⟨d, post, rfl⟩ : ∃ d post, rest = d :: post := by
        cases rest with
        | nil => cases hnext
        | cons d post => exact ⟨d, post, rfl⟩
      exact ⟨[], d, post, rfl, hnext, .inl ⟨rfl, rfl⟩⟩
    · have hp' : (c :: p).getLast? ≠ some '-' := by
        cases p with
        | nil =>
          rintro hc
          simp only [List.getLast?_singleton, Option.some.injEq] at hc
          subst hc
          simp at hd
        | cons b p => rwa [List.getLast?_cons_cons]
      exact after _ (ih h hp' hacc) (fun hq => absurd hq (List.cons_ne_nil c p))
    · exact after [] (ih h (by simp) (flush_ok_nonneg hf hp hacc)) fun _ => hd
    · have hacc' : ∀ y, .num y ∈ t :: acc' → y.neg = false := by
        intro y hy
        rcases List.mem_cons.mp hy with hy | hy
        · rcases ofChar?_some_cases ht with ⟨o, -, rfl⟩ | ⟨-, rfl⟩ | ⟨-, rfl⟩ <;> cases hy
        · exact flush_ok_nonneg hf hp hacc y hy
      exact after [] (ih h (by simp) hacc') fun _ => hd

theorem scanFrom_dropSpaces (cs : List Char) (acc : List Token) :
    scanFrom (Text.dropSpaces cs) [] acc = scanFrom cs [] acc := by
  induction cs with
  | nil => rfl
  | cons c cs ih =>
    by_cases hs : Text.isSpace c = true
    · have hd : Text.dropSpaces (c :: cs) = Text.dropSpaces cs := by
        simp [Text.dropSpaces, hs]
      rw [hd, ih]
      have hm : ¬(c = '-' ∧ ([] : List Char).isEmpty = true ∧ digitNext cs = true) :=
        fun hm => Text.isSpace_ne_minus hs hm.1
      simp only [scanFrom, if_neg hm, if_neg (Text.isSpace_not_num hs), if_pos hs, flush_nil]
    · have hd : Text.dropSpaces (c :: cs) = c :: cs := by
        simp [Text.dropSpaces, hs]
      rw [hd]

end Token

end Abacus
