/-
  Runs of the catalog. Whatever was asked for before, a request is answered as if nothing were kept
  (`serve_eq_built`): a schema depends on nothing but what its key says, every entry is the schema
  of its key, and a request that fails leaves the catalog as it is. So a run never mixes up the two
  uses of a type, or its columns with and without camel case.
-/
import CriteriaSql.Schema.Catalog
import CriteriaSql.Proofs.Outcome
import CriteriaSql.Statement.Write
import Mathlib

namespace CriteriaSql

/-! ## Requests -/

/-- A request for the schema of a type in one of its uses, under the settings of a builder. -/
structure SchemaRequest where
  type : RecordType
  use : SchemaUse
  settings : Settings

namespace SchemaRequest

/-- What of a request the catalog looks at. -/
def key (request : SchemaRequest) : SchemaKey :=
  ⟨request.type, request.use, request.settings.mapCamelCase⟩

/-- The schema that is asked for, built anew. -/
def built (request : SchemaRequest) : Except Error Schema :=
  match request.use with
  | .criteria => (request.type.criteriaSchema request.settings.mapCamelCase).map .criteria
  | .entity => (request.type.asEntity request.settings).map .entity

/-- A schema depends on nothing but its key. -/
theorem build_key (request : SchemaRequest) : request.key.build = request.built := by
  unfold SchemaKey.build built key
  cases request.use <;> rfl

end SchemaRequest

namespace Catalog

variable {catalog : Catalog} {key other : SchemaKey} {schema : Schema}

/-- The answers to requests that are made one after the other, and the catalog after them. -/
def serve (catalog : Catalog) : List SchemaRequest → List (Except Error Schema) × Catalog
  | [] => ([], catalog)
  | request :: requests =>
    let (answer, next) := catalog.request request.key
    let (answers, last) := serve next requests
    (answer :: answers, last)

/-! ## One request -/

theorem mem_of_find? (h : catalog.find? key = some schema) : (key, schema) ∈ catalog := by
  obtain ⟨⟨found, kept⟩, hentry, rfl⟩ := Option.map_eq_some_iff.1 h
  have hkey := List.find?_some hentry
  rw [beq_iff_eq] at hkey
  rw [← hkey]
  exact List.mem_of_find?_eq_some hentry

theorem notMem_of_find? (h : catalog.find? key = none) : key ∉ catalog.map Prod.fst := by
  rw [find?, Option.map_eq_none_iff, List.find?_eq_none] at h
  intro hmem
  obtain ⟨entry, hentry, hkey⟩ := List.mem_map.1 hmem
  exact h entry hentry (beq_iff_eq.2 hkey)

/-- A request finds an entry, or builds the schema and keeps it, or fails. -/
theorem request_cases (catalog : Catalog) (key : SchemaKey) :
    (∃ schema, (key, schema) ∈ catalog ∧ catalog.request key = (.ok schema, catalog)) ∨
      (∃ schema, key ∉ catalog.map Prod.fst ∧ key.build = .ok schema ∧
        catalog.request key = (.ok schema, catalog ++ [(key, schema)])) ∨
      ∃ e, key.build = .error e ∧ catalog.request key = (.error e, catalog) := by
  unfold request
  cases hfind : catalog.find? key with
  | some schema => exact Or.inl ⟨schema, mem_of_find? hfind, rfl⟩
  | none =>
    cases hbuild : key.build with
    | ok schema => exact Or.inr (Or.inl ⟨schema, notMem_of_find? hfind, rfl, rfl⟩)
    | error e => exact Or.inr (Or.inr ⟨e, rfl, rfl⟩)

/-- Each entry is the schema of its key, and no key has two. -/
structure Sound (catalog : Catalog) : Prop where
  built : ∀ entry ∈ catalog, entry.1.build = .ok entry.2
  nodup : (catalog.map Prod.fst).Nodup

theorem sound_nil : Sound [] := ⟨by simp, List.nodup_nil⟩

/-- What is kept is what would be built. -/
theorem Sound.request_fst (h : Sound catalog) (key : SchemaKey) :
    (catalog.request key).1 = key.build := by
  obtain ⟨schema, hmem, hrequest⟩ | ⟨schema, -, hbuild, hrequest⟩ | ⟨e, hbuild, hrequest⟩ :=
    catalog.request_cases key
  · rw [hrequest]
    exact (h.built _ hmem).symm
  · rw [hrequest, hbuild]
  · rw [hrequest, hbuild]

theorem Sound.request_snd (h : Sound catalog) (key : SchemaKey) :
    Sound (catalog.request key).2 := by
  obtain ⟨schema, -, hrequest⟩ | ⟨schema, hnew, hbuild, hrequest⟩ | ⟨e, -, hrequest⟩ :=
    catalog.request_cases key
  · rw [hrequest]
    exact h
  · rw [hrequest]
    refine ⟨fun entry hentry => ?_, ?_⟩
    · rcases List.mem_append.1 hentry with hold | hlast
      · exact h.built entry hold
      · rw [List.mem_singleton.1 hlast]
        exact hbuild
    · rw [List.map_append, List.map_singleton, List.nodup_append']
      exact ⟨h.nodup, List.nodup_singleton key, List.disjoint_singleton.2 hnew⟩
  · rw [hrequest]
    exact h

/-- After a request there are the entries from before it, and that of its key if it can be built. -/
theorem Sound.mem_request_snd (h : Sound catalog) {key : SchemaKey} {entry : SchemaKey × Schema} :
    entry ∈ (catalog.request key).2 ↔
      entry ∈ catalog ∨ entry.1 = key ∧ entry.1.build = .ok entry.2 := by
  obtain ⟨found, kept⟩ := entry
  obtain ⟨schema, hmem, hrequest⟩ | ⟨schema, -, hbuild, hrequest⟩ | ⟨e, hbuild, hrequest⟩ :=
    catalog.request_cases key
  · rw [hrequest]
    refine ⟨Or.inl, ?_⟩
    rintro (hold | ⟨rfl, hentry⟩)
    · exact hold
    · obtain rfl : kept = schema := ok_unique hentry (h.built _ hmem)
      exact hmem
  · rw [hrequest, List.mem_append, List.mem_singleton, Prod.mk.injEq]
    refine or_congr_right ⟨?_, ?_⟩
    · rintro ⟨rfl, rfl⟩
      exact ⟨rfl, hbuild⟩
    · rintro ⟨rfl, hentry⟩
      exact ⟨rfl, ok_unique hentry hbuild⟩
  · rw [hrequest]
    refine ⟨Or.inl, ?_⟩
    rintro (hold | ⟨rfl, hentry⟩)
    · exact hold
    · rw [hbuild] at hentry
      cases hentry

/-! ## Runs of requests -/

theorem Sound.serve_snd (h : Sound catalog) (requests : List SchemaRequest) :
    Sound (catalog.serve requests).2 := by
  induction requests generalizing catalog with
  | nil => exact h
  | cons request requests ih => exact ih (h.request_snd request.key)

theorem Sound.serve_fst (h : Sound catalog) (requests : List SchemaRequest) :
    (catalog.serve requests).1 = requests.map SchemaRequest.built := by
  induction requests generalizing catalog with
  | nil => rfl
  | cons request requests ih =>
    rw [List.map_cons, ← ih (h.request_snd request.key), ← request.build_key,
      ← h.request_fst request.key]
    rfl

/-- After a run there are the entries from before it, and those of the keys that were asked for. -/
theorem Sound.mem_serve_snd (h : Sound catalog) (requests : List SchemaRequest)
    {entry : SchemaKey × Schema} :
    entry ∈ (catalog.serve requests).2 ↔
      entry ∈ catalog ∨
        (∃ request ∈ requests, entry.1 = request.key) ∧ entry.1.build = .ok entry.2 := by
  induction requests generalizing catalog with
  | nil => simp [serve]
  | cons request requests ih =>
    have hserve : (catalog.serve (request :: requests)).2 =
        ((catalog.request request.key).2.serve requests).2 := rfl
    rw [hserve, ih (h.request_snd request.key), h.mem_request_snd]
    simp only [List.mem_cons, exists_eq_or_imp]
    tauto

/-- Requests are answered one after the other as if nothing were kept. After them the catalog holds
    the schema of each key that was asked for and can be built, once, and nothing else; a request
    that cannot be built is refused with its own error and leaves the catalog as it is. -/
theorem serve_eq_built (requests : List SchemaRequest) :
    ∃ catalog, serve [] requests = (requests.map SchemaRequest.built, catalog) ∧
      (∀ key schema, (key, schema) ∈ catalog ↔
        (∃ request ∈ requests, key = request.key) ∧ key.build = .ok schema) ∧
      (catalog.map Prod.fst).Nodup ∧
      ∀ (request : SchemaRequest) (e : Error), request.built = .error e →
        catalog.request request.key = (.error e, catalog) := by
  refine ⟨(serve [] requests).2, ?_, fun key schema => ?_, ?_, fun request e he => ?_⟩
  · rw [← sound_nil.serve_fst requests]
  · rw [sound_nil.mem_serve_snd requests]
    simp
  · exact (sound_nil.serve_snd requests).nodup
  · have hfst := (sound_nil.serve_snd requests).request_fst request.key
    rw [request.build_key, he] at hfst
    exact Prod.ext hfst (request_of_error hfst)

end Catalog

end CriteriaSql
