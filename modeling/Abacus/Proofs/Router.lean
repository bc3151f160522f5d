import Mathlib.Data.List.TakeWhile
import Abacus.Search.Router

/-!
# Registration order and dispatch

A router keeps its handlers stably sorted by priority: after any sequence of registrations,
its list holds the registered handlers by priority, lowest first, and handlers of one
priority in the order they were registered (`StablySorted`). Each registration keeps this
(`StablySorted.register`), because sorting by merging moves no handler past another of the
same priority. The two conditions leave one list only (`StablySorted.eq`). Routing reads
the list and gives no new router, so queries routed between registrations change nothing.

A query of blanks gets no answer; any other goes to the first handler of the list that
accepts it, and gets no answer when none does (`route_registered`).
-/

namespace Abacus

namespace Text

theorem trim_eq_empty_iff {q : String} : trim q = "" ↔ q.toList.all isSpace = true := by
  -- what is left after the leading blanks starts with a character that is not blank
  have hdrop : ∀ cs : List Char,
      (∀ c ∈ cs.dropWhile isSpace, isSpace c = true) ↔ cs.dropWhile isSpace = [] := by
    intro cs
    refine ⟨fun h => ?_, fun h => by simp [h]⟩
    by_contra hne
    have := List.head_dropWhile_not isSpace hne
    rw [h _ (List.head_mem hne)] at this
    cases this
  simp only [trim, String.ofList_eq_empty_iff, trimSpaces, List.reverse_eq_nil_iff,
    dropSpaces, List.dropWhile_eq_nil_iff, List.mem_reverse, List.all_eq_true]
  rw [hdrop, List.dropWhile_eq_nil_iff]

end Text

namespace Search

variable {ε : Type}

/-- `l` holds the handlers `hs` by priority, lowest first, and handlers of one priority in
their order in `hs`. -/
def StablySorted (hs l : List (Handler ε)) : Prop :=
  l.Pairwise (fun a b => a.priority ≤ b.priority) ∧
    ∀ k, l.filter (fun h => h.priority == k) = hs.filter (fun h => h.priority == k)

/-! ## Sorting by priority -/

theorem priority_le_trans (a b c : Handler ε) (hab : decide (a.priority ≤ b.priority) = true)
    (hbc : decide (b.priority ≤ c.priority) = true) : decide (a.priority ≤ c.priority) = true := by
  simp only [decide_eq_true_eq] at hab hbc ⊢
  exact Int.le_trans hab hbc

theorem priority_le_total (a b : Handler ε) :
    (decide (a.priority ≤ b.priority) || decide (b.priority ≤ a.priority)) = true := by
  simp only [Bool.or_eq_true, decide_eq_true_eq]
  exact Int.le_total _ _

theorem pairwise_mergeSort_priority (l : List (Handler ε)) :
    (l.mergeSort fun a b => decide (a.priority ≤ b.priority)).Pairwise
      (fun a b => a.priority ≤ b.priority) :=
  (List.pairwise_mergeSort priority_le_trans priority_le_total l).imp fun h => of_decide_eq_true h

theorem filter_mergeSort_priority (l : List (Handler ε)) (k : Int) :
    (l.mergeSort fun a b => decide (a.priority ≤ b.priority)).filter (fun h => h.priority == k) =
      l.filter (fun h => h.priority == k) := by
  -- the handlers of priority `k` are sorted already, so they stay a sublist, and sorting
  -- loses none of them
  have hsorted : (l.filter fun h => h.priority == k).Pairwise
      (fun a b => decide (a.priority ≤ b.priority) = true) := by
    refine List.pairwise_of_forall_mem_list fun a ha b hb => ?_
    simp only [List.mem_filter, beq_iff_eq] at ha hb
    simp [ha.2, hb.2]
  have hsub := (List.sublist_mergeSort priority_le_trans priority_le_total hsorted
    List.filter_sublist).filter (fun h => h.priority == k)
  simp only [List.filter_filter, Bool.and_self] at hsub
  have hlen := ((List.mergeSort_perm l fun a b => decide (a.priority ≤ b.priority)).filter
    (fun h => h.priority == k)).length_eq
  exact (hsub.eq_of_length hlen.symm).symm

/-! ## One list only -/

theorem eq_of_pairwise_of_filter {l l' : List (Handler ε)}
    (hl : l.Pairwise (fun a b => a.priority ≤ b.priority))
    (hl' : l'.Pairwise (fun a b => a.priority ≤ b.priority))
    (hf : ∀ k, l.filter (fun h => h.priority == k) = l'.filter (fun h => h.priority == k)) :
    l = l' := by
  induction l generalizing l' with
  | nil =>
    cases l' with
    | nil => rfl
    | cons b bs => simpa using hf b.priority
  | cons a as ih =>
    cases l' with
    | nil => simpa using hf a.priority
    | cons b bs =>
      -- each head is in the other list, so the two heads have the least priority
      have ha : a ∈ b :: bs := by
        have : a ∈ (b :: bs).filter (fun h => h.priority == a.priority) := by rw [← hf]; simp
        exact (List.mem_filter.mp this).1
      have hb : b ∈ a :: as := by
        have : b ∈ (a :: as).filter (fun h => h.priority == b.priority) := by rw [hf]; simp
        exact (List.mem_filter.mp this).1
      have hab : a.priority = b.priority := by
        have h1 : a.priority ≤ b.priority := by
          rcases List.mem_cons.mp hb with rfl | hb
          · exact Int.le_refl _
          · exact List.rel_of_pairwise_cons hl hb
        have h2 : b.priority ≤ a.priority := by
          rcases List.mem_cons.mp ha with rfl | ha
          · exact Int.le_refl _
          · exact List.rel_of_pairwise_cons hl' ha
        exact Int.le_antisymm h1 h2
      have heq : a = b := by
        have := hf a.priority
        simp only [List.filter_cons, hab, beq_self_eq_true, if_true, List.cons.injEq] at this
        exact this.1
      subst heq
      refine congrArg _ (ih (List.Pairwise.of_cons hl) (List.Pairwise.of_cons hl') fun k => ?_)
      have := hf k
      by_cases hk : a.priority = k <;> simpa [List.filter_cons, hk] using this

theorem StablySorted.eq {hs l l' : List (Handler ε)} (h : StablySorted hs l)
    (h' : StablySorted hs l') : l = l' :=
  eq_of_pairwise_of_filter h.1 h'.1 fun k => (h.2 k).trans (h'.2 k).symm

/-! ## Registrations -/

theorem StablySorted.register {hs : List (Handler ε)} {r : Router ε} (hr : StablySorted hs r.handlers)
    (h : Handler ε) : StablySorted (hs ++ [h]) (r.register h).handlers := by
  refine ⟨pairwise_mergeSort_priority _, fun k => ?_⟩
  rw [Router.register, filter_mergeSort_priority, List.filter_append, hr.2 k, List.filter_append]

theorem StablySorted.foldl_register {hs : List (Handler ε)} {r : Router ε}
    (hr : StablySorted hs r.handlers) (more : List (Handler ε)) :
    StablySorted (hs ++ more) (more.foldl Router.register r).handlers := by
  induction more generalizing hs r with
  | nil => simpa using hr
  | cons h more ih =>
    rw [List.foldl_cons, List.append_cons]
    exact ih (hr.register h)

theorem stablySorted_registered (hs : List (Handler ε)) :
    StablySorted hs (hs.foldl Router.register Router.empty).handlers := by
  have h0 : StablySorted ([] : List (Handler ε)) Router.empty.handlers :=
    ⟨List.Pairwise.nil, fun _ => rfl⟩
  simpa using h0.foldl_register hs

/-! ## Dispatch -/

namespace Router

theorem route_blank (r : Router ε) {q : String} (hq : Text.trim q = "") :
    r.route q = .ok (noHandler, []) := by
  simp [route, Text.trim_eq_empty_iff.mp hq]

theorem route_eq_of_first (r : Router ε) {q : String} (hq : Text.trim q ≠ "")
    {pre post : List (Handler ε)} {h : Handler ε} (hr : r.handlers = pre ++ h :: post)
    (hpre : ∀ g ∈ pre, g.accepts q = false) (hh : h.accepts q = true) :
    r.route q = (h.name, ·) <$> h.results q := by
  have hb : q.toList.all Text.isSpace = false := by
    simpa [Text.trim_eq_empty_iff] using hq
  have hfind : r.handlers.find? (fun g => g.accepts q) = some h :=
    List.find?_eq_some_iff_append.mpr ⟨hh, pre, post, hr, fun g hg => by simp [hpre g hg]⟩
  simp only [route, hb, Bool.false_eq_true, if_false, hfind]
  cases h.results q <;> rfl

theorem route_none_accepts (r : Router ε) {q : String}
    (hn : ∀ g ∈ r.handlers, g.accepts q = false) : r.route q = .ok (noHandler, []) := by
  have hfind : r.handlers.find? (fun g => g.accepts q) = none :=
    List.find?_eq_none.mpr fun g hg => by simp [hn g hg]
  unfold route
  split <;> simp [hfind]

end Router

/-- After any registrations, the router lists the handlers stably sorted by priority, and
that list is the only such one; a blank query gets no answer, and any other the answer of
the first handler that accepts it, or none when no handler does. -/
theorem route_registered (hs : List (Handler ε)) (q : String) :
    let r := hs.foldl Router.register Router.empty
    (StablySorted hs r.handlers ∧ ∀ l, StablySorted hs l → l = r.handlers) ∧
      (Text.trim q = "" → r.route q = .ok (noHandler, [])) ∧
      (Text.trim q ≠ "" → ∀ pre h post, r.handlers = pre ++ h :: post →
        (∀ g ∈ pre, g.accepts q = false) → h.accepts q = true →
        r.route q = (h.name, ·) <$> h.results q) ∧
      ((∀ g ∈ r.handlers, g.accepts q = false) → r.route q = .ok (noHandler, [])) := by
  intro r
  have hs' := stablySorted_registered hs
  refine ⟨⟨hs', fun l hl => hl.eq hs'⟩, r.route_blank, ?_, r.route_none_accepts⟩
  intro hq pre h post hr hpre hh
  exact r.route_eq_of_first hq hr hpre hh

theorem route_registered_tie :
    (([⟨"files", 1000, fun _ => true, fun _ => .ok []⟩, ⟨"first", 100, fun _ => true, fun _ => .ok []⟩,
        ⟨"second", 100, fun _ => true, fun _ => .ok []⟩] : List (Handler Unit)).foldl
      Router.register Router.empty).route "1 + 2" = .ok ("first", []) := by
  have hsorted : StablySorted ([⟨"files", 1000, fun _ => true, fun _ => .ok []⟩,
      ⟨"first", 100, fun _ => true, fun _ => .ok []⟩, ⟨"second", 100, fun _ => true, fun _ => .ok []⟩] :
        List (Handler Unit)) [⟨"first", 100, fun _ => true, fun _ => .ok []⟩,
      ⟨"second", 100, fun _ => true, fun _ => .ok []⟩, ⟨"files", 1000, fun _ => true, fun _ => .ok []⟩] := by
    refine ⟨by decide, fun k => ?_⟩
    by_cases h100 : (100 : Int) = k
    · subst h100
      simp
    · by_cases h1000 : (1000 : Int) = k
      · subst h1000
        simp
      · simp [h100, h1000]
  have h := route_registered ([⟨"files", 1000, fun _ => true, fun _ => .ok []⟩,
    ⟨"first", 100, fun _ => true, fun _ => .ok []⟩, ⟨"second", 100, fun _ => true, fun _ => .ok []⟩] :
      List (Handler Unit)) "1 + 2"
  have hq : Text.trim "1 + 2" ≠ "" := by decide
  exact h.2.2.1 hq [] _ _ (by rw [← h.1.2 _ hsorted]; rfl) (by simp) rfl

end Search

end Abacus
