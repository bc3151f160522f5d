import Mathlib.Data.List.TakeWhile
import Abacus.Search.Calculator
import Abacus.Search.Router
import Abacus.Proofs.Evaluate

/-!
# The calculator answers only queries it accepts

The calculator's quick test and its evaluation read the query with different character
sets, but every character the lexer takes is one the test accepts, the empty text has no
value in any notation, and `?` is no character of arithmetic. So whenever the calculator
has an answer for a query, it accepts the query, and a router that asks it first routes the
query to it (`calcResults_accepted`).

Compatibility folding keeps blanks blank: a query of blanks folds into blanks, so an accepted
query is never blank.
-/

namespace Abacus

theorem Token.scanFrom_ok_arith {cs p : List Char} {acc ts : List Token}
    (h : scanFrom cs p acc = .ok ts) : ∀ c ∈ cs, Search.isArithChar c = true ∨ Text.isSpace c = true := by
  induction cs generalizing p acc with
  | nil => simp
  | cons c rest ih =>
    have hc : Search.isArithChar c = true ∨ Text.isSpace c = true := by
      rcases scanFrom_cons_ok h with ⟨rfl, -⟩ | ⟨hd, -⟩ | ⟨-, hs, -⟩ | ⟨-, -, acc', t, -, ht, -⟩
      · exact .inl (by decide)
      · simp only [Search.isArithChar, decide_eq_true_eq]
        rcases hd with hd | hd
        · exact .inl (.inl hd)
        · exact .inl (.inr (.inl hd))
      · exact .inr hs
      · refine .inl ?_
        simp only [Search.isArithChar, decide_eq_true_eq]
        rcases ofChar?_some_cases ht with ⟨o, ho, -⟩ | ⟨hl, -⟩ | ⟨hr, -⟩
        · exact .inr (.inr (.inl (by simp [ho])))
        · exact .inr (.inr (.inr (.inl hl)))
        · exact .inr (.inr (.inr (.inr hr)))
    refine List.forall_mem_cons.mpr ⟨hc, ?_⟩
    rcases scanFrom_cons_ok h with ⟨-, -, -, h⟩ | ⟨-, h⟩ | ⟨-, -, acc', -, h⟩ |
      ⟨-, -, acc', t, -, -, h⟩
    all_goals exact ih h

theorem evaluate_empty (n : Option Notation) : evaluate "" n = none := by
  cases n with
  | none => decide
  | some n => cases n <;> decide

theorem scan_of_evaluate {s : String} {n : Option Notation} {v : Decimal}
    (h : evaluate s n = some v) : ∃ ts, Token.scan s = .ok ts := by
  rw [evaluate_eq] at h
  cases hv : valueIn s (n.getD (Notation.detect s)) with
  | error e => simp [hv, Except.toOption] at h
  | ok v' =>
    obtain ⟨r, hr, -⟩ := valueIn_ok hv
    unfold toPostfix at hr
    split at hr
    · cases hr
    · exact ⟨_, ‹_›⟩

/-! ## Blanks under folding -/

namespace Text

def foldsToBlanks (n : Nat) : Bool :=
  match variants.find? fun v => v.lo ≤ n ∧ n ≤ v.hi with
  | some ⟨_, _, .text s⟩ => s.toList.all isSpace
  | some ⟨_, _, .numeral ..⟩ => false
  | none => true

theorem foldsToBlanks_of_isSpace {c : Char} (h : isSpace c = true) (hc : 0xA0 ≤ c.toNat) :
    foldsToBlanks c.toNat = true := by
  have hwide : ∀ k < 11, foldsToBlanks (0x2000 + k) = true := by decide
  have hsingle : ∀ n ∈ [0xA0, 0x1680, 0x2028, 0x2029, 0x202F, 0x205F, 0x3000],
      foldsToBlanks n = true := by decide
  simp only [isSpace, decide_eq_true_eq] at h
  rcases h with h | h | h | h | h | ⟨h1, h2⟩ | h | h | h | h | h
  -- the control characters and the next line lie below `0xA0`
  · omega
  · omega
  · omega
  · exact hsingle _ (by simp [h])
  · exact hsingle _ (by simp [h])
  · have := hwide (c.toNat - 0x2000) (by omega)
    rwa [Nat.add_sub_cancel' h1] at this
  all_goals exact hsingle _ (by simp [h])

theorem foldChar_isSpace {c : Char} (h : isSpace c = true) : ∀ d ∈ foldChar c, isSpace d = true := by
  unfold foldChar
  by_cases hc : c.toNat < 0xA0
  · simp [hc, h]
  · have hb := foldsToBlanks_of_isSpace h (by omega)
    unfold foldsToBlanks at hb
    simp only [hc, if_false]
    split <;> rename_i heq <;> rw [heq] at hb
    · simpa using hb
    · cases hb
    · simp [h]

theorem fold_isSpace {q : String} (h : ∀ c ∈ q.toList, isSpace c = true) :
    ∀ d ∈ (fold q).toList, isSpace d = true := by
  intro d hd
  simp only [fold, String.toList_ofList, List.mem_flatMap] at hd
  obtain ⟨c, hc, hd⟩ := hd
  exact foldChar_isSpace (h c hc) d hd

end Text

/-! ## Accepted queries -/

namespace Search

theorem calcAccepts_not_blank {q : String} (h : calcAccepts q = true) :
    q.toList.all Text.isSpace = false := by
  cases hb : q.toList.all Text.isSpace with
  | false => rfl
  | true =>
    have hf := Text.fold_isSpace (List.all_eq_true.mp hb)
    have hnil : (calcText q).toList = [] := by
      simp only [calcText, Text.trim, String.toList_ofList, Text.trimSpaces, Text.dropSpaces]
      rw [List.dropWhile_eq_nil_iff.mpr fun c hc => hf c hc]
      simp
    simp [calcAccepts, hnil] at h

theorem Router.route_first {ε : Type} {r : Router ε} {q name : String} {prio : Int}
    {accepts : String → Bool} {results : String → Except ε (List Item)}
    {rest : List (Handler ε)} {items : List Item} (hq : q.toList.all Text.isSpace = false)
    (hr : r.handlers = ⟨name, prio, accepts, results⟩ :: rest) (ha : accepts q = true)
    (hres : results q = .ok items) :
    r.route q = .ok (name, items) := by
  simp only [Router.route, hq, Bool.false_eq_true, if_false, hr, List.find?_cons, ha, hres]

/-- Whenever the calculator answers a query with an item, it accepts the query; so a router
that asks the calculator first sends the query to it, with that answer. -/
theorem calcResults_accepted {cfg : CalcConfig} {q : String} {items : List Item}
    (h : calcResults cfg q = .ok items) (hne : items ≠ []) :
    calcAccepts q = true ∧
      ∀ (r : Router Display.Refusal) (name : String) (prio : Int) rest,
        r.handlers = ⟨name, prio, calcAccepts, calcResults cfg⟩ :: rest →
        r.route q = .ok (name, items) := by
  have hacc : calcAccepts q = true := by
    cases hv : evaluate (calcText q) cfg.forced with
    | none =>
      have hnil : calcResults cfg q = .ok [] := by
        unfold calcResults
        simp only [hv]
      rw [hnil, Except.ok.injEq] at h
      exact absurd h.symm hne
    | some v =>
      -- a text with a value lexes, so each of its characters is arithmetic or blank
      obtain ⟨ts, hs⟩ := scan_of_evaluate hv
      have hchars := Token.scanFrom_ok_arith hs
      unfold calcAccepts
      split
      · rename_i hnil
        have hempty : calcText q = "" := by simpa using hnil
        rw [hempty, evaluate_empty] at hv
        cases hv
      · rename_i rest hq
        have := hchars '?' (by simp [hq])
        exact absurd this (by decide)
      · exact List.all_eq_true.mpr fun c hc => by simpa using hchars c hc
  refine ⟨hacc, fun r name prio rest hr => ?_⟩
  exact Router.route_first (calcAccepts_not_blank hacc) hr hacc h

theorem calcResults_accepted_sum :
    calcResults ⟨none, 10, true, .str "wl-copy"⟩ "1 + 2" =
      .ok [⟨"3", "= 1 + 2", "accessories-calculator", "calculator", some "3"⟩] ∧
    calcAccepts "1 + 2" = true := by
  have h : calcResults ⟨none, 10, true, .str "wl-copy"⟩ "1 + 2" =
      .ok [⟨"3", "= 1 + 2", "accessories-calculator", "calculator", some "3"⟩] := by
    have ht : (calcResults ⟨none, 10, true, .str "wl-copy"⟩ "1 + 2").toOption =
        some [⟨"3", "= 1 + 2", "accessories-calculator", "calculator", some "3"⟩] := by
      decide +kernel
    cases hr : calcResults ⟨none, 10, true, .str "wl-copy"⟩ "1 + 2" with
    | ok items =>
      rw [hr] at ht
      cases ht
      rfl
    | error e =>
      rw [hr] at ht
      cases ht
  exact ⟨h, (calcResults_accepted h (List.cons_ne_nil _ _)).1⟩

end Search

end Abacus
