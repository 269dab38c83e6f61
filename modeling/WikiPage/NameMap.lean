/-!
# Finite maps from names

A finite map from names, kept in the byte order of the names, so that two maps with the same look-ups
are equal and what is written from a map does not depend on the order of insertion.  Main statements:
`get?_insert`, which says what a look-up sees after an insertion, and `ext_get?`, that the look-ups
decide the map.
-/

namespace WikiPage

/-- Names with their values, in the order of the names. -/
structure NameMap (α : Type) where
  entries : List (String × α)
  sorted : entries.Pairwise (fun a b => a.1 < b.1) := by simp
  deriving DecidableEq, Repr

namespace NameMap

variable {α : Type}

/-- The empty map. -/
def empty : NameMap α := ⟨[], by simp⟩

instance : Inhabited (NameMap α) := ⟨empty⟩

/-- Puts an entry at its place in a sorted list, in the stead of one with the same name. -/
def insertEntry (name : String) (value : α) :
    List (String × α) → List (String × α)
  | [] => [(name, value)]
  | entry :: rest =>
    if name < entry.1 then (name, value) :: entry :: rest
    else if name = entry.1 then (name, value) :: rest
    else entry :: insertEntry name value rest

theorem mem_insertEntry {name : String} {value : α} {e : String × α} :
    ∀ {entries : List (String × α)},
      e ∈ insertEntry name value entries → e = (name, value) ∨ e ∈ entries
  | [], h => by simpa [insertEntry] using h
  | entry :: rest, h => by
    unfold insertEntry at h
    split at h
    · simpa using h
    · split at h
      · rcases List.mem_cons.1 h with h | h
        · exact .inl h
        · exact .inr (List.mem_cons_of_mem _ h)
      · rcases List.mem_cons.1 h with h | h
        · exact .inr (h ▸ List.mem_cons_self)
        · rcases mem_insertEntry h with h | h
          · exact .inl h
          · exact .inr (List.mem_cons_of_mem _ h)

theorem sorted_insertEntry (name : String) (value : α) :
    ∀ {entries : List (String × α)}, entries.Pairwise (fun a b => a.1 < b.1) →
      (insertEntry name value entries).Pairwise (fun a b => a.1 < b.1)
  | [], _ => by simp [insertEntry]
  | entry :: rest, h => by
    have hrest := List.pairwise_cons.1 h
    unfold insertEntry
    split
    · rename_i hlt
      refine List.pairwise_cons.2 ⟨?_, h⟩
      intro e he
      rcases List.mem_cons.1 he with rfl | he
      · exact hlt
      · exact String.lt_trans hlt (hrest.1 e he)
    · rename_i hle
      split
      · rename_i heq
        exact List.pairwise_cons.2 ⟨fun e he => heq ▸ hrest.1 e he, hrest.2⟩
      · rename_i hne
        refine List.pairwise_cons.2 ⟨?_, sorted_insertEntry name value hrest.2⟩
        intro e he
        rcases mem_insertEntry he with rfl | he
        · refine Decidable.byContradiction fun hge => hne ?_
          exact String.le_antisymm (String.not_lt.1 hge) (String.not_lt.1 hle)
        · exact hrest.1 e he

/-- Gives a name a value, in the stead of an earlier one. -/
def insert (a : NameMap α) (name : String) (value : α) : NameMap α :=
  ⟨insertEntry name value a.entries, sorted_insertEntry name value a.sorted⟩

/-- The value under a name in a list of entries. -/
def lookupEntry (name : String) : List (String × α) → Option α
  | [] => none
  | entry :: rest => if name = entry.1 then some entry.2 else lookupEntry name rest

/-- The value of a name. -/
def get? (a : NameMap α) (name : String) : Option α := lookupEntry name a.entries

/-- The names in order. -/
def names (a : NameMap α) : List String := a.entries.map Prod.fst

/-- Number of names. -/
def size (a : NameMap α) : Nat := a.entries.length

/-- Whether there are none. -/
def isEmpty (a : NameMap α) : Bool := a.entries.isEmpty

theorem lookupEntry_insertEntry (name : String) (value : α) (key : String) :
    ∀ entries : List (String × α),
      lookupEntry key (insertEntry name value entries) =
        if key = name then some value else lookupEntry key entries
  | [] => by simp [insertEntry, lookupEntry]
  | entry :: rest => by
    have ih := lookupEntry_insertEntry name value key rest
    unfold insertEntry
    split
    · simp [lookupEntry]
    · split
      · rename_i heq
        by_cases hk : key = name <;> simp [lookupEntry, hk, ← heq]
      · rename_i hne
        by_cases hk : key = name
        · subst hk
          simp [lookupEntry, hne, ih]
        · simp [lookupEntry, ih, hk]

/-- A look-up sees the inserted value under its name and is otherwise unchanged. -/
theorem get?_insert (a : NameMap α) (name : String) (value : α) (key : String) :
    (a.insert name value).get? key = if key = name then some value else a.get? key :=
  lookupEntry_insertEntry name value key a.entries

/-- A name before all others has no value. -/
theorem lookupEntry_of_lt {name : String} : ∀ {entries : List (String × α)},
    (∀ e ∈ entries, name < e.1) → lookupEntry name entries = none
  | [], _ => rfl
  | entry :: rest, h => by
    have hlt := h entry List.mem_cons_self
    have hne : name ≠ entry.1 := fun heq => String.lt_irrefl _ (heq ▸ hlt)
    simp [lookupEntry, hne, lookupEntry_of_lt fun e he => h e (List.mem_cons_of_mem _ he)]

/-- Sorted lists of entries with the same look-ups are equal. -/
theorem eq_of_lookupEntry : ∀ {xs ys : List (String × α)},
    xs.Pairwise (fun a b => a.1 < b.1) → ys.Pairwise (fun a b => a.1 < b.1) →
      (∀ key, lookupEntry key xs = lookupEntry key ys) → xs = ys
  | [], [], _, _, _ => rfl
  | [], y :: _, _, _, h => by simpa [lookupEntry] using h y.1
  | x :: _, [], _, _, h => by simpa [lookupEntry] using h x.1
  | x :: xs, y :: ys, hx, hy, h => by
    obtain ⟨hx₁, hx₂⟩ := List.pairwise_cons.1 hx
    obtain ⟨hy₁, hy₂⟩ := List.pairwise_cons.1 hy
    have hname : x.1 = y.1 := by
      refine String.le_antisymm (String.not_lt.1 fun hlt => ?_) (String.not_lt.1 fun hlt => ?_)
      · have hnone : lookupEntry y.1 (x :: xs) = none := lookupEntry_of_lt fun e he => by
          rcases List.mem_cons.1 he with rfl | he
          · exact hlt
          · exact String.lt_trans hlt (hx₁ e he)
        have := hnone.symm.trans (h y.1)
        simp [lookupEntry] at this
      · have hnone : lookupEntry x.1 (y :: ys) = none := lookupEntry_of_lt fun e he => by
          rcases List.mem_cons.1 he with rfl | he
          · exact hlt
          · exact String.lt_trans hlt (hy₁ e he)
        have := (h x.1).trans hnone
        simp [lookupEntry] at this
    have hvalue : x.2 = y.2 := by
      have := h x.1
      simpa [lookupEntry, hname] using this
    have hrest : xs = ys := eq_of_lookupEntry hx₂ hy₂ fun key => by
      by_cases hk : key = x.1
      · subst hk
        rw [lookupEntry_of_lt hx₁, hname, lookupEntry_of_lt hy₁]
      · have := h key
        simpa [lookupEntry, hk, hname ▸ hk] using this
    rw [hrest, Prod.ext hname hvalue]

/-- Maps with the same look-ups are equal. -/
theorem ext_get? {a b : NameMap α} (h : ∀ name, a.get? name = b.get? name) : a = b := by
  obtain ⟨xs, hx⟩ := a
  obtain ⟨ys, hy⟩ := b
  have : xs = ys := eq_of_lookupEntry hx hy h
  subst this
  rfl

end NameMap

end WikiPage
