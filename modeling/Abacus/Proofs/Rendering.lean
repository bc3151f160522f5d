import Mathlib.Data.List.TakeWhile
import Abacus.Proofs.Concat

/-!
# Tokens written out and read back

A list of tokens is written with one blank between tokens and each number in scientific
notation. A number whose exponent is at most zero and whose leading digit stands no lower than
`10 ^ -6` is written as digits with at most one point, and the lexer reads it back with its
sign, coefficient and exponent, a negative zero included. Any other number is written with an
exponent, and the lexer stops at its `E`. Since a blank lexes as the end of one text and the
start of the next (`scanFrom_append_separator`), the tokens read back are exactly those written
when every number is written without an exponent, and otherwise the lexer rejects the `E`
(`scan_renderAll`).
-/

namespace Abacus

namespace Decimal

/-! ## Digits and points -/

theorem digitsValue_coeffChars (x : Decimal) : digitsValue x.coeffChars = x.coeff :=
  Nat.ofDigitChars_ten_toDigits

theorem isDigit_of_mem_coeffChars {x : Decimal} {c : Char} (h : c ∈ x.coeffChars) :
    c.isDigit = true :=
  Nat.isDigit_of_mem_toDigits (by decide) (by decide) h

theorem ofUnsigned?_digits {ds : List Char} (hd : ∀ c ∈ ds, c.isDigit = true) (hne : ds ≠ []) :
    ofUnsigned? ds = some (digitsValue ds, 0) := by
  have hw : ds.takeWhile Char.isDigit = ds := List.takeWhile_eq_self_iff.mpr hd
  have hr : ds.dropWhile Char.isDigit = [] := List.dropWhile_eq_nil_iff.mpr hd
  simp [ofUnsigned?, hw, hr, hne]

theorem ofUnsigned?_point {whole frac : List Char} (hw : ∀ c ∈ whole, c.isDigit = true)
    (hf : ∀ c ∈ frac, c.isDigit = true) (hne : whole ≠ []) :
    ofUnsigned? (whole ++ '.' :: frac) = some (digitsValue (whole ++ frac), -(frac.length : Int)) := by
  have hpoint : Char.isDigit '.' = false := by decide
  have htake : (whole ++ '.' :: frac).takeWhile Char.isDigit = whole := by
    rw [List.takeWhile_append_of_pos hw, List.takeWhile_cons_of_neg (by simp [hpoint]),
      List.append_nil]
  have hdrop : (whole ++ '.' :: frac).dropWhile Char.isDigit = '.' :: frac := by
    rw [List.dropWhile_append_of_pos hw, List.dropWhile_cons_of_neg (by simp [hpoint])]
  simp [ofUnsigned?, htake, hdrop, List.all_eq_true.mpr hf, hne]

theorem ofLiteral?_signed (neg : Bool) {m : List Char} (hm : m.head? ≠ some '-') :
    ofLiteral? ((if neg then ['-'] else []) ++ m) = (ofUnsigned? m).map fun (c, e) => ⟨neg, c, e⟩ := by
  cases neg with
  | true => rfl
  | false => exact ofLiteral?_of_head hm

/-! ## Numbers written positionally or with an exponent -/

/-- Characters that the lexer collects into one literal: digits and points, a digit first. -/
def LiteralChars (m : List Char) : Prop :=
  (∀ c ∈ m, c.isDigit = true ∨ c = '.') ∧ ∃ d rest, m = d :: rest ∧ d.isDigit = true

theorem LiteralChars.head_ne_minus {m : List Char} (h : LiteralChars m) : m.head? ≠ some '-' := by
  obtain ⟨-, d, rest, rfl, hd⟩ := h
  rintro ⟨⟩
  simp at hd

theorem LiteralChars.digits {w : List Char} (hw : ∀ c ∈ w, c.isDigit = true) (hne : w ≠ []) :
    LiteralChars w := by
  obtain ⟨d, ds, rfl⟩ := List.exists_cons_of_ne_nil hne
  exact ⟨fun c hc => .inl (hw c hc), d, ds, rfl, hw d (by simp)⟩

theorem LiteralChars.point {w f : List Char} (hw : ∀ c ∈ w, c.isDigit = true)
    (hf : ∀ c ∈ f, c.isDigit = true) (hne : w ≠ []) : LiteralChars (w ++ '.' :: f) := by
  obtain ⟨d, ds, rfl⟩ := List.exists_cons_of_ne_nil hne
  refine ⟨fun c hc => ?_, d, ds ++ '.' :: f, rfl, hw d (by simp)⟩
  rcases List.mem_append.mp hc with hc | hc
  · exact .inl (hw c hc)
  rcases List.mem_cons.mp hc with rfl | hc
  · exact .inr rfl
  · exact .inl (hf c hc)

theorem magnitudeChars_positional {x : Decimal} (h : x.exp ≤ 0 ∧ -6 ≤ x.adjusted) :
    LiteralChars x.magnitudeChars ∧ ofUnsigned? x.magnitudeChars = some (x.coeff, x.exp) := by
  have hcs : ∀ c ∈ x.coeffChars, c.isDigit = true := fun c hc => isDigit_of_mem_coeffChars hc
  have hne : x.coeffChars ≠ [] := by simp [coeffChars]
  simp only [magnitudeChars, if_pos h]
  by_cases h0 : x.exp = 0
  · -- the digits alone
    simp only [if_pos h0]
    refine ⟨.digits hcs hne, ?_⟩
    rw [ofUnsigned?_digits hcs hne, digitsValue_coeffChars, h0]
  simp only [if_neg h0]
  have hlt : x.exp < 0 := by omega
  split
  · -- a point among the digits: `before` digits stand before it
    rename_i hbefore
    obtain ⟨k, hk⟩ : ∃ k : Nat, ((x.coeffChars.length : Int) + x.exp).toNat = k := ⟨_, rfl⟩
    rw [hk]
    have hkpos : 0 < k := by omega
    have hwhole : x.coeffChars.take k ≠ [] := by
      simp only [ne_eq, List.take_eq_nil_iff, not_or]
      exact ⟨by omega, hne⟩
    have htake : ∀ c ∈ x.coeffChars.take k, c.isDigit = true :=
      fun c hc => hcs c (List.mem_of_mem_take hc)
    have hdrop : ∀ c ∈ x.coeffChars.drop k, c.isDigit = true :=
      fun c hc => hcs c (List.mem_of_mem_drop hc)
    refine ⟨.point htake hdrop hwhole, ?_⟩
    rw [ofUnsigned?_point htake hdrop hwhole, List.take_append_drop, digitsValue_coeffChars,
      List.length_drop]
    congr 2
    omega
  · -- a zero, the point and leading zeros before the digits
    rename_i hbefore
    have hzero : ∀ c ∈ ['0'], c.isDigit = true := by simp
    have hfrac : ∀ c ∈ List.replicate (-((x.coeffChars.length : Int) + x.exp)).toNat '0' ++
        x.coeffChars, c.isDigit = true := by
      intro c hc
      rcases List.mem_append.mp hc with hc | hc
      · rw [List.eq_of_mem_replicate hc]
        rfl
      · exact hcs c hc
    have hpoint := ofUnsigned?_point hzero hfrac (by simp)
    rw [List.singleton_append] at hpoint
    rw [List.cons_append, List.cons_append]
    refine ⟨.point hzero hfrac (by simp), ?_⟩
    rw [hpoint]
    -- the leading zeros add nothing to the value
    have hvalue : digitsValue (['0'] ++ (List.replicate
        (-((x.coeffChars.length : Int) + x.exp)).toNat '0' ++ x.coeffChars)) = x.coeff := by
      rw [← digitsValue_coeffChars x]
      simp only [digitsValue, ← Nat.ofDigitChars_eq_foldl, Nat.ofDigitChars_append,
        Nat.ofDigitChars_replicate_zero]
      rfl
    rw [hvalue, List.length_append, List.length_replicate]
    congr 2
    omega

theorem magnitudeChars_scientific {x : Decimal} (h : ¬(x.exp ≤ 0 ∧ -6 ≤ x.adjusted)) :
    ∃ m tail, x.magnitudeChars = m ++ 'E' :: tail ∧ LiteralChars m ∧ (ofUnsigned? m).isSome := by
  obtain ⟨d, ds, hd⟩ := List.exists_cons_of_ne_nil
    (Nat.toDigits_ne_nil : Nat.toDigits 10 x.coeff ≠ [])
  have hcs : ∀ c ∈ d :: ds, c.isDigit = true := fun c hc =>
    isDigit_of_mem_coeffChars (by rwa [coeffChars, hd])
  simp only [magnitudeChars, if_neg h, coeffChars, hd]
  -- the mantissa: the leading digit, then a point and the other digits if there are any
  cases ds with
  | nil =>
    refine ⟨[d], _, rfl, .digits hcs (by simp), ?_⟩
    rw [ofUnsigned?_digits hcs (by simp)]
    rfl
  | cons d' ds =>
    have hlead : ∀ c ∈ [d], c.isDigit = true := by simpa using hcs d (by simp)
    have hrest : ∀ c ∈ d' :: ds, c.isDigit = true := fun c hc => hcs c (List.mem_cons_of_mem d hc)
    refine ⟨[d] ++ '.' :: (d' :: ds), _, rfl, .point hlead hrest (by simp), ?_⟩
    rw [ofUnsigned?_point hlead hrest (by simp)]
    rfl

end Decimal

namespace Token

/-! ## Literals read back -/

theorem scanFrom_literal_chars {m : List Char} (hm : ∀ c ∈ m, c.isDigit = true ∨ c = '.')
    (rest p : List Char) (acc : List Token) :
    scanFrom (m ++ rest) p acc = scanFrom rest (m.reverse ++ p) acc := by
  induction m generalizing p with
  | nil => rfl
  | cons c m ih =>
    rw [List.cons_append, scanFrom_cons_num (hm c (by simp)),
      ih (fun c hc => hm c (List.mem_cons_of_mem _ hc))]
    simp

theorem scanFrom_signed_literal (neg : Bool) {m : List Char} (hm : Decimal.LiteralChars m)
    (rest : List Char) (acc : List Token) :
    scanFrom ((if neg then ['-'] else []) ++ m ++ rest) [] acc =
      scanFrom rest ((if neg then ['-'] else []) ++ m).reverse acc := by
  obtain ⟨hchars, d, r, rfl, hd⟩ := hm
  cases neg with
  | false => simpa using scanFrom_literal_chars hchars rest [] acc
  | true =>
    have hnext : digitNext (d :: (r ++ rest)) = true := hd
    simp only [if_true, List.cons_append, List.nil_append]
    rw [scanFrom_cons_sign hnext, ← List.cons_append, scanFrom_literal_chars hchars]
    simp

theorem flush_literal {lit : List Char} {y : Decimal} (hne : lit ≠ [])
    (h : Decimal.ofLiteral? lit = some y) (acc : List Token) :
    flush lit.reverse acc = .ok (.num y :: acc) := by
  simp [flush, hne, h]

theorem scan_render_num (x : Decimal) :
    scan (render (.num x)) =
      if x.exp ≤ 0 ∧ -6 ≤ x.adjusted then .ok [.num x] else .error (.unexpectedChar 'E') := by
  simp only [scan, render, Decimal.toText, String.toList_ofList]
  by_cases h : x.exp ≤ 0 ∧ -6 ≤ x.adjusted
  · rw [if_pos h]
    obtain ⟨hlit, hval⟩ := Decimal.magnitudeChars_positional h
    have hread : Decimal.ofLiteral? ((if x.neg then ['-'] else []) ++ x.magnitudeChars) = some x := by
      rw [Decimal.ofLiteral?_signed x.neg hlit.head_ne_minus, hval]
      rfl
    have hne : (if x.neg then ['-'] else []) ++ x.magnitudeChars ≠ [] := by
      obtain ⟨-, d, r, hd, -⟩ := hlit
      simp [hd]
    rw [← List.append_nil ((if x.neg then ['-'] else []) ++ x.magnitudeChars),
      scanFrom_signed_literal x.neg hlit, scanFrom, flush_literal hne hread]
    rfl
  · rw [if_neg h]
    obtain ⟨m, tail, heq, hlit, hsome⟩ := Decimal.magnitudeChars_scientific h
    obtain ⟨⟨c, e⟩, hce⟩ := Option.isSome_iff_exists.mp hsome
    have hread : Decimal.ofLiteral? ((if x.neg then ['-'] else []) ++ m) = some ⟨x.neg, c, e⟩ := by
      rw [Decimal.ofLiteral?_signed x.neg hlit.head_ne_minus, hce]
      rfl
    have hne : (if x.neg then ['-'] else []) ++ m ≠ [] := by
      obtain ⟨-, d, r, hd, -⟩ := hlit
      simp [hd]
    -- the literal before the `E` is read, and then the `E` is rejected
    have hE : ¬('E' = '-' ∧ ((if x.neg then ['-'] else []) ++ m).reverse.isEmpty = true ∧
        digitNext tail = true) := by simp
    rw [heq, ← List.append_assoc, scanFrom_signed_literal x.neg hlit, scanFrom_cons]
    simp only [step, if_neg hE, flush_literal hne hread]
    rfl

def writtenPlain : Token → Bool
  | .num x => decide (x.exp ≤ 0 ∧ -6 ≤ x.adjusted)
  | _ => true

theorem scan_render (t : Token) :
    scan t.render = if t.writtenPlain then .ok [t] else .error (.unexpectedChar 'E') := by
  cases t with
  | num x =>
    rw [scan_render_num]
    by_cases h : x.exp ≤ 0 ∧ -6 ≤ x.adjusted <;> simp [writtenPlain, h]
  | op o => cases o <;> rfl
  | lparen => rfl
  | rparen => rfl

/-! ## Lists of tokens -/

theorem renderAll_cons_cons (t u : Token) (us : List Token) :
    (renderAll (t :: u :: us)).toList = t.render.toList ++ ' ' :: (renderAll (u :: us)).toList := by
  simp [renderAll, String.intercalate_cons_cons]

theorem scan_renderAll_eq_ite (ts : List Token) :
    scan (renderAll ts) = if ts.all writtenPlain then .ok ts else .error (.unexpectedChar 'E') := by
  induction ts with
  | nil => rfl
  | cons t us ih =>
    cases us with
    | nil => simpa [renderAll] using scan_render t
    | cons u us =>
      -- the blank after `t` ends its text, and the rest is read as a text of its own
      have hsep : Text.isSpace ' ' = true ∨ (ofChar? ' ').isSome = true := .inl rfl
      have hnone : ofChar? ' ' = none := rfl
      have ht := scan_render t
      unfold scan at ih ht ⊢
      rw [renderAll_cons_cons, scanFrom_append_separator hsep (fun h => absurd h (by decide)), ht,
        ih]
      cases hp : t.writtenPlain <;> cases hall : (u :: us).all writtenPlain <;>
        simp [hp, hall, Except.bind, Except.map, hnone]

theorem all_writtenPlain_iff (ts : List Token) :
    ts.all writtenPlain = true ↔ ∀ x, .num x ∈ ts → x.exp ≤ 0 ∧ -6 ≤ x.adjusted := by
  simp only [List.all_eq_true]
  constructor
  · intro h x hx
    simpa [writtenPlain] using h _ hx
  · intro h t ht
    cases t with
    | num x => simpa [writtenPlain] using h x ht
    | op _ | lparen | rparen => rfl

/-- Tokens written out with single blanks read back as themselves exactly when every number is
written without an exponent, its exponent at most zero and its leading digit no lower than
`10 ^ -6`; otherwise the lexer rejects the `E` of the first number written with one. -/
theorem scan_renderAll (ts : List Token) :
    (scan (renderAll ts) = .ok ts ↔ ∀ x, .num x ∈ ts → x.exp ≤ 0 ∧ -6 ≤ x.adjusted) ∧
      ((∃ x, .num x ∈ ts ∧ ¬(x.exp ≤ 0 ∧ -6 ≤ x.adjusted)) →
        scan (renderAll ts) = .error (.unexpectedChar 'E')) := by
  rw [scan_renderAll_eq_ite, ← all_writtenPlain_iff]
  constructor
  · cases ts.all writtenPlain <;> simp
  · rintro ⟨x, hx, hbad⟩
    have hall : ts.all writtenPlain = false := by
      cases h : ts.all writtenPlain with
      | false => rfl
      | true => exact absurd ((all_writtenPlain_iff ts).mp h x hx) hbad
    rw [hall]
    rfl

/-- The lexer reads `0.0000001` as one ten-millionth, which is written back as `1E-7`, and the
lexer rejects that text at its `E`. -/
theorem scan_renderAll_ten_millionth :
    scan "0.0000001" = .ok [.num ⟨false, 1, -7⟩] ∧ renderAll [.num ⟨false, 1, -7⟩] = "1E-7" ∧
      scan (renderAll [.num ⟨false, 1, -7⟩]) = .error (.unexpectedChar 'E') :=
  ⟨rfl, by decide +kernel, (scan_renderAll _).2 ⟨⟨false, 1, -7⟩, List.mem_singleton_self _,
    by simp [Decimal.adjusted, Decimal.digits, digitCount]⟩⟩

end Token

end Abacus
