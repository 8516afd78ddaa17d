-- SUMMARY: Tables of values under names, kept in the order in which each name came first.

/-!
# Tables of names

A table lists values under names, each name once. A value put under a name that
is there takes the place of the one before it; a new name goes to the end. So
the table of some pairs has their names in the order of first occurrence, and
under every name the value that came last.
-/

namespace SqlDialects

/-- Values under names. -/
abbrev NameTable (α : Type) := List (String × α)

namespace NameTable

/-- Put a value under a name. -/
def put {α : Type} : NameTable α → String → α → NameTable α
  | [], name, value => [(name, value)]
  | (n, v) :: rest, name, value =>
    if n = name then (n, value) :: rest else (n, v) :: put rest name value

/-- The table of pairs put one by one. -/
def ofList {α : Type} (pairs : List (String × α)) : NameTable α :=
  pairs.foldl (fun kept (name, value) => put kept name value) []

def names {α : Type} (table : NameTable α) : List String := table.map (·.1)

-- ---------------------------------------------------------------------------
-- Putting
-- ---------------------------------------------------------------------------

theorem lookup_cons {α : Type} (n : String) (v : α) (rest : NameTable α) (name : String) :
    List.lookup name ((n, v) :: rest) = if name = n then some v else rest.lookup name := by
  rw [List.lookup_cons]
  cases h : name == n <;> simp_all

theorem lookup_put {α : Type} (table : NameTable α) (name other : String) (value : α) :
    (put table name value).lookup other =
      if other = name then some value else table.lookup other := by
  induction table with
  | nil => simp [put, lookup_cons]
  | cons pair rest ih =>
    obtain ⟨n, v⟩ := pair
    by_cases hn : n = name
    · subst hn
      by_cases h : other = n <;> simp [put, lookup_cons, h]
    · by_cases h : other = n
      · subst h
        simp [put, hn]
      · simp [put, lookup_cons, hn, h, ih]

theorem names_put {α : Type} (table : NameTable α) (name : String) (value : α) :
    names (put table name value) =
      if name ∈ names table then names table else names table ++ [name] := by
  induction table with
  | nil => simp [put, names]
  | cons pair rest ih =>
    obtain ⟨n, v⟩ := pair
    by_cases hn : n = name
    · simp [put, names, hn]
    · have hm : name ≠ n := fun h => hn h.symm
      by_cases h : name ∈ names rest <;> simp_all [put, names]

theorem put_of_not_mem {α : Type} {table : NameTable α} {name : String}
    (h : name ∉ names table) (value : α) : put table name value = table ++ [(name, value)] := by
  induction table with
  | nil => rfl
  | cons pair rest ih =>
    obtain ⟨n, v⟩ := pair
    rw [names, List.map_cons, List.mem_cons, not_or] at h
    rw [put, if_neg fun hn => h.1 hn.symm, ih h.2, List.cons_append]

/-- Pairs without repetition are a table. -/
theorem ofList_of_nodup {α : Type} {pairs : List (String × α)} (h : (names pairs).Nodup) :
    ofList pairs = pairs := by
  have step (ps : List (String × α)) (table : NameTable α) (h : (names (table ++ ps)).Nodup) :
      ps.foldl (fun kept (name, value) => put kept name value) table = table ++ ps := by
    induction ps generalizing table with
    | nil => exact (List.append_nil table).symm
    | cons p ps ih =>
      obtain ⟨name, value⟩ := p
      have hname : name ∉ names table := by
        rw [names, List.map_append] at h
        exact fun hmem => (List.nodup_append.1 h).2.2 _ hmem _ List.mem_cons_self rfl
      rw [List.append_cons] at h
      simp only [List.foldl_cons, put_of_not_mem hname]
      rw [ih _ h, ← List.append_cons]
  exact step pairs [] h

-- ---------------------------------------------------------------------------
-- Mapping
-- ---------------------------------------------------------------------------

theorem put_map {α β : Type} (f : α → β) (table : NameTable α) (name : String) (value : α) :
    put (table.map fun entry => (entry.1, f entry.2)) name (f value) =
      (put table name value).map fun entry => (entry.1, f entry.2) := by
  induction table with
  | nil => rfl
  | cons entry rest ih =>
    simp only [List.map_cons, put]
    split
    · rfl
    · rw [List.map_cons, ih]

/-- Values can be replaced before the table is made or after. -/
theorem ofList_map {α β : Type} (f : α → β) (pairs : List (String × α)) :
    ofList (pairs.map fun entry => (entry.1, f entry.2)) =
      (ofList pairs).map fun entry => (entry.1, f entry.2) := by
  have step (ps : List (String × α)) (table : NameTable α) :
      (ps.map fun entry => (entry.1, f entry.2)).foldl
          (fun kept (name, value) => put kept name value)
          (table.map fun entry => (entry.1, f entry.2)) =
        (ps.foldl (fun kept (name, value) => put kept name value) table).map
          fun entry => (entry.1, f entry.2) := by
    induction ps generalizing table with
    | nil => rfl
    | cons p ps ih =>
      simp only [List.map_cons, List.foldl_cons, put_map]
      exact ih _
  exact step pairs []

-- ---------------------------------------------------------------------------
-- Entries
-- ---------------------------------------------------------------------------

theorem mem_of_mem_put {α : Type} {table : NameTable α} {name : String} {value : α}
    {entry : String × α} (h : entry ∈ table.put name value) :
    entry = (name, value) ∨ entry ∈ table := by
  induction table with
  | nil => exact .inl (List.mem_singleton.1 h)
  | cons first rest ih =>
    obtain ⟨n, v⟩ := first
    rw [put] at h
    split at h
    next hn =>
      rcases List.mem_cons.1 h with h | h
      · exact .inl (hn ▸ h)
      · exact .inr (List.mem_cons_of_mem _ h)
    next =>
      rcases List.mem_cons.1 h with h | h
      · exact .inr (h ▸ List.mem_cons_self)
      · rcases ih h with h | h
        · exact .inl h
        · exact .inr (List.mem_cons_of_mem _ h)

/-- What is in a table that grows entry by entry was put there or is one of the entries. -/
theorem mem_of_mem_foldl {α : Type} {grow : NameTable α → String × α → NameTable α}
    {entry : String × α}
    (hgrow : ∀ table pair, entry ∈ grow table pair → entry = pair ∨ entry ∈ table)
    {pairs : List (String × α)} {table : NameTable α} (h : entry ∈ pairs.foldl grow table) :
    entry ∈ pairs ∨ entry ∈ table := by
  induction pairs generalizing table with
  | nil => exact .inr h
  | cons pair pairs ih =>
    rcases ih h with h | h
    · exact .inl (List.mem_cons_of_mem _ h)
    · rcases hgrow table pair h with h | h
      · exact .inl (h ▸ List.mem_cons_self)
      · exact .inr h

theorem mem_of_mem_ofList {α : Type} {pairs : List (String × α)} {entry : String × α}
    (h : entry ∈ ofList pairs) : entry ∈ pairs :=
  (mem_of_mem_foldl (fun _ _ => mem_of_mem_put) h).resolve_right List.not_mem_nil

end NameTable

end SqlDialects
