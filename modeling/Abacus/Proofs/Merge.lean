import Abacus.Settings.Load

/-!
# Laying one settings table over another

`deepMerge` lays a table `o` over a table `b`: where both hold a table under one key the two
are merged in turn, and otherwise the value of `o` replaces the one of `b`. Read along a path
of keys the result is plain (`atPath_deepMerge`). Where `o` holds a value, the merge holds
that value laid over whatever `b` holds there (`mergeAt`). Where `o` holds nothing, the merge
holds what `b` holds, provided `o` holds nothing or a table at every proper prefix of the path
(`openAlong`), and nothing otherwise. So a value other than a table sits at a path of the
merge exactly when `o` puts it there, or `b` does and `o` leaves it in view; and the keys of
every table of the merge are the keys of `o` there and the keys of `b` left in view
(`deepMerge_atPath_iff`).

A table is a list of entries in which a later entry of a key hides an earlier one. A
dictionary has each key once, and the law needs this of `o` (`keysDistinct`): two entries of
one key in `o` would both be merged in.
-/

namespace Abacus

namespace Value

/-! ## Dictionaries -/

mutual

/-- No table reached through keys repeats a key, as in a dictionary. -/
def keysDistinct : Value → Bool
  | .table kvs => entriesDistinct kvs
  | _ => true

def entriesDistinct : List (String × Value) → Bool
  | [] => true
  | (k, v) :: rest => !(rest.any fun kv => kv.1 == k) && keysDistinct v && entriesDistinct rest

end

theorem entriesDistinct_cons {k : String} {v : Value} {rest : List (String × Value)} :
    entriesDistinct ((k, v) :: rest) = true ↔
      k ∉ rest.map Prod.fst ∧ v.keysDistinct = true ∧ entriesDistinct rest = true := by
  have hany : (rest.any fun kv => kv.1 == k) = true ↔ k ∈ rest.map Prod.fst := by
    simp [List.mem_map]
  rw [entriesDistinct, Bool.and_eq_true, Bool.and_eq_true, Bool.not_eq_true', ← Bool.not_eq_true,
    hany, and_assoc]

/-! ## Entries -/

theorem lookup_nil (k : String) : lookup [] k = none := rfl

theorem lookup_cons (kv : String × Value) (kvs : List (String × Value)) (k : String) :
    lookup (kv :: kvs) k = (lookup kvs k).or (if kv.1 = k then some kv.2 else none) := by
  unfold lookup
  rw [List.reverse_cons, List.find?_append]
  cases List.find? (fun kv => kv.1 == k) kvs.reverse <;> by_cases h : kv.1 = k <;> simp [h]

theorem isSome_lookup_iff {kvs : List (String × Value)} {k : String} :
    (lookup kvs k).isSome ↔ k ∈ kvs.map Prod.fst := by
  induction kvs with
  | nil => simp [lookup_nil]
  | cons kv kvs ih =>
    obtain ⟨k', v⟩ := kv
    rw [lookup_cons]
    by_cases h : k' = k
    · subst h
      simp
    · simp [h, Ne.symm h, ih]

theorem lookup_eq_none_iff {kvs : List (String × Value)} {k : String} :
    lookup kvs k = none ↔ k ∉ kvs.map Prod.fst := by
  rw [← isSome_lookup_iff, Option.not_isSome_iff_eq_none]

theorem lookup_cons_of_not_mem {k k' : String} {v : Value} {kvs : List (String × Value)}
    (hk' : k' ∉ kvs.map Prod.fst) :
    lookup ((k', v) :: kvs) k = if k' = k then some v else lookup kvs k := by
  rw [lookup_cons]
  by_cases h : k' = k
  · subst h
    simp [lookup_eq_none_iff.mpr hk']
  · simp [h]

theorem keysDistinct_table (kvs : List (String × Value)) :
    (Value.table kvs).keysDistinct = entriesDistinct kvs := by
  rw [keysDistinct]

theorem keysDistinct_of_lookup {kvs : List (String × Value)} (h : entriesDistinct kvs = true)
    {k : String} {v : Value} (hv : lookup kvs k = some v) : v.keysDistinct = true := by
  induction kvs with
  | nil => simp [lookup_nil] at hv
  | cons kv kvs ih =>
    obtain ⟨k', v'⟩ := kv
    obtain ⟨hk', hv', h⟩ := entriesDistinct_cons.mp h
    rw [lookup_cons_of_not_mem hk'] at hv
    by_cases hk : k' = k
    · rw [if_pos hk] at hv
      cases hv
      exact hv'
    · rw [if_neg hk] at hv
      exact ih h hv

theorem lookup_map_replace (kvs : List (String × Value)) (k k' : String) (v : Value) :
    lookup (kvs.map fun kv => if kv.1 == k then (k, v) else kv) k' =
      if k = k' then (lookup kvs k').map fun _ => v else lookup kvs k' := by
  induction kvs with
  | nil => simp [lookup_nil]
  | cons kv kvs ih =>
    rw [List.map_cons, lookup_cons, ih, lookup_cons]
    obtain ⟨k0, v0⟩ := kv
    by_cases h0 : k0 = k
    · -- the first entry is one of `k`, and is given `v`
      subst h0
      by_cases h : k0 = k' <;> cases lookup kvs k' <;> simp [h]
    · -- the first entry is kept, and is no entry of `k'` when `k'` is `k`
      by_cases h : k = k'
      · subst h
        simp [h0]
      · simp [h0, h]

theorem lookup_setEntry (kvs : List (String × Value)) (k k' : String) (v : Value) :
    lookup (setEntry kvs k v) k' = if k = k' then some v else lookup kvs k' := by
  unfold setEntry
  split
  case isTrue hk =>
    -- `k` has an entry, and each of its entries is given `v`
    have hmem : (lookup kvs k).isSome := isSome_lookup_iff.mpr (by simpa [List.mem_map] using hk)
    rw [lookup_map_replace]
    by_cases h : k = k'
    · subst h
      obtain ⟨w, hw⟩ := Option.isSome_iff_exists.mp hmem
      simp [hw]
    · simp [h]
  case isFalse =>
    -- the new entry goes last and is the one found for `k`
    unfold lookup
    rw [List.reverse_append]
    by_cases h : k = k' <;> simp [h]

/-! ## One place of the merge -/

/-- What laying `o` over `b` leaves at one place, from what each holds there: both merged,
the one that is there, or nothing. -/
def mergeAt : Option Value → Option Value → Option Value
  | some b, some o => some (deepMerge b o)
  | b, none => b
  | none, o => o

@[simp] theorem mergeAt_none_right (b : Option Value) : mergeAt b none = b := by
  cases b <;> rfl

@[simp] theorem mergeAt_none_left (o : Option Value) : mergeAt none o = o := by
  cases o <;> rfl

theorem isSome_mergeAt (b o : Option Value) :
    (mergeAt b o).isSome ↔ b.isSome ∨ o.isSome := by
  cases b <;> cases o <;> simp [mergeAt]

theorem lookup_mergeEntries (b : List (String × Value)) {o : List (String × Value)}
    (ho : entriesDistinct o = true) (k : String) :
    lookup (mergeEntries b o) k = mergeAt (lookup b k) (lookup o k) := by
  induction o generalizing b with
  | nil => simp [mergeEntries, lookup_nil]
  | cons kv o ih =>
    obtain ⟨k', v⟩ := kv
    obtain ⟨hk', -, ho⟩ := entriesDistinct_cons.mp ho
    -- `k'` is merged first, and the rest of `o` has no entry of `k'`
    rw [mergeEntries, ih _ ho, lookup_setEntry, lookup_cons_of_not_mem hk']
    by_cases h : k' = k
    · subst h
      rw [if_pos rfl, if_pos rfl, lookup_eq_none_iff.mpr hk', mergeAt_none_right]
      cases lookup b k' <;> rfl
    · rw [if_neg h, if_neg h]

/-! ## Values other than tables -/

theorem table_or_not (v : Value) : (∃ kvs, v = .table kvs) ∨ ∀ kvs, v ≠ .table kvs := by
  cases v with
  | table kvs => exact .inl ⟨kvs, rfl⟩
  | _ => exact .inr fun _ h => Value.noConfusion h

theorem atPath_cons_of_not_table {v : Value} (hv : ∀ kvs, v ≠ .table kvs) (k : String)
    (ks : List String) : v.atPath? (k :: ks) = none := by
  cases v with
  | table kvs => exact absurd rfl (hv kvs)
  | _ => rfl

theorem deepMerge_of_not_table (b : Value) {o : Value} (ho : ∀ kvs, o ≠ .table kvs) :
    deepMerge b o = o := by
  cases o with
  | table kvs => exact absurd rfl (ho kvs)
  | _ => rfl

theorem deepMerge_table_of_not_table {b : Value} (hb : ∀ kvs, b ≠ .table kvs)
    (o : List (String × Value)) : deepMerge b (.table o) = .table o := by
  cases b with
  | table kvs => exact absurd rfl (hb kvs)
  | _ => rfl

theorem deepMerge_table_table (b o : List (String × Value)) :
    deepMerge (.table b) (.table o) = .table (mergeEntries b o) := rfl

theorem deepMerge_eq_of_not_table {x : Value} (hx : ∀ kvs, x ≠ .table kvs) (b o : Value) :
    deepMerge b o = x ↔ o = x := by
  rcases table_or_not o with ⟨o', rfl⟩ | ho
  · -- a table laid over anything gives a table
    rcases table_or_not b with ⟨b', rfl⟩ | hb
    · rw [deepMerge_table_table]
      exact ⟨fun h => absurd h.symm (hx _), fun h => absurd h.symm (hx _)⟩
    · rw [deepMerge_table_of_not_table hb]
  · rw [deepMerge_of_not_table b ho]

theorem mergeAt_eq_some_iff {x : Value} (hx : ∀ kvs, x ≠ .table kvs) (b o : Option Value) :
    mergeAt b o = some x ↔ o = some x ∨ (b = some x ∧ o = none) := by
  cases b <;> cases o <;> simp [mergeAt, deepMerge_eq_of_not_table hx]

/-! ## Paths -/

/-- At every proper prefix of the path, `o` holds nothing or a table, so what lies below `o`
at the path stays in view when `o` is laid over it. -/
def openAlong : Value → List String → Bool
  | _, [] => true
  | .table kvs, k :: ks => (lookup kvs k).all fun v => openAlong v ks
  | _, _ :: _ => false

theorem openAlong_cons_of_not_table {v : Value} (hv : ∀ kvs, v ≠ .table kvs) (k : String)
    (ks : List String) : v.openAlong (k :: ks) = false := by
  cases v with
  | table kvs => exact absurd rfl (hv kvs)
  | _ => rfl

theorem atPath_append (v : Value) (p q : List String) :
    v.atPath? (p ++ q) = (v.atPath? p).bind fun w => w.atPath? q := by
  induction p generalizing v with
  | nil => rfl
  | cons k ks ih =>
    rcases table_or_not v with ⟨kvs, rfl⟩ | hv
    · simp only [List.cons_append, atPath?, ih, Option.bind_assoc]
    · simp [atPath_cons_of_not_table hv]

theorem openAlong_of_atPath_isSome {o : Value} {p : List String} (h : (o.atPath? p).isSome) :
    o.openAlong p = true := by
  induction p generalizing o with
  | nil => rfl
  | cons k ks ih =>
    rcases table_or_not o with ⟨kvs, rfl⟩ | ho
    · simp only [atPath?] at h
      simp only [openAlong]
      cases hl : lookup kvs k with
      | none => rfl
      | some v => simpa [hl] using ih (by simpa [hl] using h)
    · simp [atPath_cons_of_not_table ho] at h

theorem atPath_eq_none_of_openAlong_false {o : Value} {p : List String}
    (h : o.openAlong p = false) : o.atPath? p = none := by
  simpa using mt openAlong_of_atPath_isSome (by simp [h])

theorem openAlong_iff {o : Value} {p : List String} :
    o.openAlong p = true ↔
      ∀ q, q <+: p → q ≠ p → o.atPath? q = none ∨ ∃ kvs, o.atPath? q = some (.table kvs) := by
  induction p generalizing o with
  | nil =>
    simp only [openAlong, true_iff]
    intro q hq hne
    exact absurd (List.prefix_nil.mp hq) hne
  | cons k ks ih =>
    rcases table_or_not o with ⟨kvs, rfl⟩ | ho
    · -- the empty prefix holds the table itself; the others go through the entry of `k`
      simp only [openAlong, List.prefix_cons_iff]
      cases hl : lookup kvs k with
      | none =>
        simp only [Option.all_none, true_iff]
        rintro q (rfl | ⟨t, rfl, -⟩) -
        · exact .inr ⟨kvs, rfl⟩
        · exact .inl (by simp [atPath?, hl])
      | some v =>
        simp only [Option.all_some, ih]
        constructor
        · rintro h q (rfl | ⟨t, rfl, ht⟩) hne
          · exact .inr ⟨kvs, rfl⟩
          · simpa [atPath?, hl] using h t ht (fun e => hne (e ▸ rfl))
        · intro h t ht hne
          simpa [atPath?, hl] using h (k :: t) (.inr ⟨t, rfl, ht⟩) (fun e => hne (by simpa using e))
    · -- the empty prefix holds `o` itself
      rw [openAlong_cons_of_not_table ho]
      simp only [Bool.false_eq_true, false_iff]
      intro h
      rcases h [] List.nil_prefix (List.cons_ne_nil k ks).symm with h | ⟨kvs, h⟩
      · cases h
      · exact ho kvs (Option.some.inj h)

/-! ## The merge along a path -/

/-- The merge at every path: what `o` holds there laid over what `b` holds, while `o` leaves
the path open; nothing where `o` closes it with a value other than a table. -/
theorem atPath_deepMerge (b : Value) {o : Value} (ho : o.keysDistinct = true) (p : List String) :
    (deepMerge b o).atPath? p =
      if o.openAlong p then mergeAt (b.atPath? p) (o.atPath? p) else none := by
  induction p generalizing b o with
  | nil => simp [atPath?, openAlong, mergeAt]
  | cons k ks ih =>
    rcases table_or_not o with ⟨o', rfl⟩ | hnot
    · rw [keysDistinct_table] at ho
      rcases table_or_not b with ⟨b', rfl⟩ | hb
      · -- both are tables: the entry of `k` is the merge of the two entries
        rw [deepMerge_table_table]
        cases hlo : lookup o' k with
        | none => simp [atPath?, openAlong, lookup_mergeEntries b' ho k, hlo]
        | some v =>
          have hv : v.keysDistinct = true := keysDistinct_of_lookup ho hlo
          cases hlb : lookup b' k with
          | none =>
            simp only [atPath?, openAlong, lookup_mergeEntries b' ho k, hlo, hlb,
              mergeAt_none_left, Option.bind_some, Option.bind_none, Option.all_some]
            cases hopen : v.openAlong ks with
            | true => rfl
            | false => simp [atPath_eq_none_of_openAlong_false hopen]
          | some bv =>
            simp only [atPath?, openAlong, lookup_mergeEntries b' ho k, hlo, hlb,
              Option.bind_some, Option.all_some, mergeAt]
            exact ih bv hv
      · -- a table laid over anything else replaces it
        rw [deepMerge_table_of_not_table hb, atPath_cons_of_not_table hb, mergeAt_none_left]
        cases hopen : (Value.table o').openAlong (k :: ks) with
        | true => rfl
        | false => simp [atPath_eq_none_of_openAlong_false hopen]
    · rw [deepMerge_of_not_table b hnot, atPath_cons_of_not_table hnot,
        openAlong_cons_of_not_table hnot]
      rfl

theorem isSome_atPath_deepMerge (b : Value) {o : Value} (ho : o.keysDistinct = true)
    (p : List String) :
    ((deepMerge b o).atPath? p).isSome ↔
      (o.atPath? p).isSome ∨ ((b.atPath? p).isSome ∧ o.atPath? p = none ∧ o.openAlong p = true) := by
  rw [atPath_deepMerge b ho]
  cases hopen : o.openAlong p with
  | false => simp [atPath_eq_none_of_openAlong_false hopen]
  | true =>
    rw [if_pos rfl, isSome_mergeAt]
    cases o.atPath? p <;> simp

/-- Laying the dictionary `o` over the table `b`: a value other than a table sits at a path of
the merge exactly when `o` holds it there, or `b` does while `o` holds nothing at the path and,
at each proper prefix of it, nothing or a table. The keys of each table of the merge are the
keys `o` holds there together with the keys of `b` that survive by the same rule. -/
theorem deepMerge_atPath_iff (b : List (String × Value)) {o : List (String × Value)}
    (ho : (Value.table o).keysDistinct = true) :
    (∀ (p : List String) (x : Value), (∀ kvs, x ≠ .table kvs) →
      ((deepMerge (.table b) (.table o)).atPath? p = some x ↔
        (Value.table o).atPath? p = some x ∨
          ((Value.table b).atPath? p = some x ∧ (Value.table o).atPath? p = none ∧
            ∀ q, q <+: p → q ≠ p → (Value.table o).atPath? q = none ∨
              ∃ kvs, (Value.table o).atPath? q = some (.table kvs)))) ∧
    ∀ (p : List String) (m : List (String × Value)),
      (deepMerge (.table b) (.table o)).atPath? p = some (.table m) →
      ∀ k, k ∈ m.map Prod.fst ↔
        ((Value.table o).atPath? (p ++ [k])).isSome ∨
          (((Value.table b).atPath? (p ++ [k])).isSome ∧ (Value.table o).atPath? (p ++ [k]) = none ∧
            ∀ q, q <+: p ++ [k] → q ≠ p ++ [k] → (Value.table o).atPath? q = none ∨
              ∃ kvs, (Value.table o).atPath? q = some (.table kvs)) := by
  constructor
  · intro p x hx
    rw [atPath_deepMerge _ ho, ← openAlong_iff]
    cases hopen : (Value.table o).openAlong p with
    | false => simp [atPath_eq_none_of_openAlong_false hopen]
    | true => simp [mergeAt_eq_some_iff hx]
  · -- a key of the table at `p` is a path one longer at which the merge holds something
    intro p m hm k
    rw [← openAlong_iff, ← isSome_atPath_deepMerge _ ho, atPath_append, hm]
    simp [atPath?, isSome_lookup_iff]

/-- A settings file that sets only the notation keeps the default number of fraction digits. -/
theorem deepMerge_atPath_iff_defaults :
    (deepMerge Settings.defaults (.table [("calculator", .table [("notation", .str "infix")])])).atPath?
      ["calculator", "max_fraction_digits"] = some (.int 10) :=
  ((deepMerge_atPath_iff _ (by decide +kernel)).1 _ (.int 10) (fun _ h => Value.noConfusion h)).mpr
    (.inr ⟨rfl, rfl, openAlong_iff.mp (by decide +kernel)⟩)

end Value

end Abacus
