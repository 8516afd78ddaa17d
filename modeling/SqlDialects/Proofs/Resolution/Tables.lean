-- SUMMARY: The rules a backend resolves are rows of its tables, and a rule builds alike in settings that its template does not tell apart.
import SqlDialects.Proofs.Steps
import SqlDialects.Registry.Store

/-!
# Rules and rows

In each context a backend looks a name up in its own table and in the general one.
Whatever it finds is the rule of a row with that name, so what holds of all rows of
the tables holds of every rule that is resolved.

A rule hands the backend of its setting to the validators and the whole setting to its
template. So it builds alike in two settings of one backend in which the template expands
alike.
-/

namespace SqlDialects

def General.rows : Context → List (String × RuleSource)
  | .scalar => scalarRules
  | .aggregate => aggregateRules
  | .window => windowRules

def Postgres.rows : Context → List (String × RuleSource)
  | .scalar => scalarRules
  | .aggregate => aggregateRules
  | .window => windowRules

/-- The rows in which a backend looks names up in a context. -/
def Backend.rows : Backend → Context → List (String × RuleSource)
  | .ansi, c => General.rows c
  | .postgres, c => Postgres.rows c ++ General.rows c

/-! ## Looking up -/

theorem Registry.exists_row_of_lookup {registry name : String} {parent : Option Nat}
    {rules : List (String × RuleSource)} {rule : Rule}
    (h : (frozenOf registry parent rules).rules.lookup name = some rule) :
    ∃ source, (name, source) ∈ rules ∧ rule = source.named name := by
  obtain ⟨row, hrow, heq⟩ := List.mem_map.1 (NameTable.mem_of_mem_ofList (mem_of_lookup h))
  cases heq
  exact ⟨row.2, hrow, rfl⟩

theorem Lineage.exists_mem_of_get? {l : Lineage} {name : String} {rule : Rule}
    (h : l.get? name = some rule) : ∃ r ∈ l, r.rules.lookup name = some rule := by
  induction l with
  | nil => cases h
  | cons r older ih =>
    rw [get?] at h
    split at h
    next rule' hrule =>
      cases h
      exact ⟨r, List.mem_cons_self, hrule⟩
    next =>
      obtain ⟨r', hr', hrule⟩ := ih h
      exact ⟨r', List.mem_cons_of_mem _ hr', hrule⟩

namespace Backend

variable {backend : Backend} {name : String} {c : Context} {rule : Rule}

theorem select_ansi (c : Context) :
    ∃ registry, Backend.ansi.variant.select c = [.frozenOf registry none (General.rows c)] := by
  cases c <;> exact ⟨_, rfl⟩

theorem select_postgres (c : Context) :
    ∃ registry parent general, Backend.postgres.variant.select c =
      [.frozenOf registry parent (Postgres.rows c), .frozenOf general none (General.rows c)] := by
  cases c <;> exact ⟨_, _, _, rfl⟩

/-- What any registry of a context finds is a row of the context. -/
theorem exists_row_of_lookup {r : Registry} (hr : r ∈ backend.variant.select c)
    (hrule : r.rules.lookup name = some rule) :
    ∃ source, (name, source) ∈ backend.rows c ∧ rule = source.named name := by
  cases backend with
  | ansi =>
    obtain ⟨registry, hselect⟩ := select_ansi c
    rw [hselect] at hr
    obtain rfl := List.mem_singleton.1 hr
    exact Registry.exists_row_of_lookup hrule
  | postgres =>
    obtain ⟨registry, parent, general, hselect⟩ := select_postgres c
    rw [hselect] at hr
    rcases List.mem_cons.1 hr with rfl | hr
    · obtain ⟨source, hsource, heq⟩ := Registry.exists_row_of_lookup hrule
      exact ⟨source, List.mem_append_left _ hsource, heq⟩
    · obtain rfl := List.mem_singleton.1 hr
      obtain ⟨source, hsource, heq⟩ := Registry.exists_row_of_lookup hrule
      exact ⟨source, List.mem_append_right _ hsource, heq⟩

theorem exists_row_of_get? (h : (backend.variant.select c).get? name = some rule) :
    ∃ source, (name, source) ∈ backend.rows c ∧ rule = source.named name := by
  obtain ⟨r, hr, hrule⟩ := Lineage.exists_mem_of_get? h
  exact exists_row_of_lookup hr hrule

/-- What a backend resolves in a context is a row of the context or a scalar row. -/
theorem exists_row_of_resolve_in (h : backend.variant.resolve name c = .ok rule) :
    ∃ c' source, (c' = c ∨ c' = .scalar) ∧ (name, source) ∈ backend.rows c' ∧
      rule = source.named name := by
  unfold Variant.resolve at h
  split at h
  next rule' hrule =>
    cases h
    obtain ⟨source, hsource⟩ := exists_row_of_get? hrule
    exact ⟨c, source, .inl rfl, hsource⟩
  next =>
    split at h
    next rule' hrule =>
      cases h
      obtain ⟨source, hsource⟩ := exists_row_of_get? (c := .scalar) hrule
      exact ⟨.scalar, source, .inr rfl, hsource⟩
    next => cases h

theorem exists_row_of_resolve (h : backend.variant.resolve name c = .ok rule) :
    ∃ c source, (name, source) ∈ backend.rows c ∧ rule = source.named name := by
  obtain ⟨c', source, _, hsource⟩ := exists_row_of_resolve_in h
  exact ⟨c', source, hsource⟩

/-- What holds of all rows holds of what is resolved. -/
theorem forall_of_resolve {P : String → Rule → Prop}
    (hgeneral : ∀ c, ∀ row ∈ General.rows c, P row.1 (row.2.named row.1))
    (hpostgres : ∀ c, ∀ row ∈ Postgres.rows c, P row.1 (row.2.named row.1))
    (h : backend.variant.resolve name c = .ok rule) : P name rule := by
  obtain ⟨c', source, hsource, rfl⟩ := exists_row_of_resolve h
  cases backend with
  | ansi => exact hgeneral c' _ hsource
  | postgres =>
    rcases List.mem_append.1 hsource with hsource | hsource
    · exact hpostgres c' _ hsource
    · exact hgeneral c' _ hsource

/-! ## Shared functions -/

theorem resolve_plus (backend : Backend) (c : Context) :
    backend.variant.resolve "+" c = .ok { name := "+", template := General.plus } := by
  cases backend <;> cases c <;> rfl

theorem resolve_minus (backend : Backend) (c : Context) :
    backend.variant.resolve "-" c = .ok { name := "-", template := General.minus } := by
  cases backend <;> cases c <;> rfl

theorem resolve_isIn (backend : Backend) (c : Context) :
    backend.variant.resolve "%in%" c = .ok { name := "%in%", template := General.isIn } := by
  cases backend <;> cases c <;> rfl

end Backend

/-! ## Settings that are not told apart -/

section

variable {s s' : Setting}

theorem Template.apply_congr {t : Template} (h : ∀ args, t.expand s' args = t.expand s args)
    (args : Arguments) : t.apply s' args = t.apply s args := by
  unfold apply
  split
  · rfl
  · exact h args

theorem Rule.build_congr {r : Rule} (hbackend : s'.backend = s.backend)
    (h : ∀ args, r.template.expand s' args = r.template.expand s args)
    (args : List Value) (named : List (String × Value)) :
    r.build s' args named = r.build s args named := by
  unfold build
  split
  · rfl
  · rw [hbackend]
    refine bind_congr_ok fun validated _ => ?_
    rw [Template.apply_congr h validated]

/-- No match of a pattern looks at its setting. -/
theorem Rule.expand_patternMatch_congr (place : PatternPlace) (args : Arguments) :
    (Rule.patternMatch place).template.expand s' args =
      (Rule.patternMatch place).template.expand s args := by
  rw [expand_patternMatch_eq, expand_patternMatch_eq]

end

end SqlDialects
