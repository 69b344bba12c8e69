import Mathlib.Data.List.Nodup
import Readiness.Api.Catalog

/-! What a kind is resolved to in the orders in which a catalog can list its resources. The first resource
that the kind means is found, and each of them is the first in some order; so the order matters just where a
kind means more than one resource. Within a group this takes kinds that differ in case only, or a plural that
is the kind of another resource. -/
namespace Readiness.Api.Catalog

/-- No two resources of a group share their plural or their kind. -/
structure Distinct (catalog : Catalog) : Prop where
  plurals : (catalog.map fun resource => (resource.group, resource.plural)).Nodup
  kinds : (catalog.map fun resource => (resource.group, resource.kind)).Nodup

def meant (catalog : Catalog) (kind : String) : List Resource :=
  catalog.filter fun resource => resource.isMeant (Cluster.Kind.canonical (parts kind).1) (parts kind).2

/-- Two resources of one catalog that a kind can mean: resources of two groups, where the kind names none, or
resources of one group that have a name in common in letters of either case. -/
inductive Rivals (kind : String) (a b : Resource) : Prop
  | groups (apart : a.group ≠ b.group) (ungrouped : (parts kind).2 = none)
  | plural (together : a.group = b.group) (alike : Text.sameIgnoringCase b.kind a.plural = true)
  | kind (together : a.group = b.group) (alike : Text.sameIgnoringCase a.kind b.plural = true)
  | case (together : a.group = b.group) (apart : a.kind ≠ b.kind)
    (alike : Text.sameIgnoringCase a.kind b.kind = true)

section Resolving

variable {catalog other : Catalog} {kind : String} {a b : Resource}

theorem mem_meant : a ∈ catalog.meant kind ↔
    a ∈ catalog ∧ a.isMeant (Cluster.Kind.canonical (parts kind).1) (parts kind).2 = true :=
  List.mem_filter

theorem resolve_eq (catalog : Catalog) (kind : String) :
    catalog.resolve kind = (catalog.meant kind).head? :=
  List.head?_filter.symm

theorem meant_of_perm (perm : other.Perm catalog) (kind : String) :
    (other.meant kind).Perm (catalog.meant kind) :=
  perm.filter _

theorem mem_meant_of_resolve (found : catalog.resolve kind = some a) : a ∈ catalog.meant kind :=
  List.mem_of_head? (resolve_eq catalog kind ▸ found)

theorem resolve_eq_none_iff : catalog.resolve kind = none ↔ catalog.meant kind = [] := by
  rw [resolve_eq, List.head?_eq_none_iff]

theorem exists_order (means : a ∈ catalog.meant kind) :
    ∃ other, other.Perm catalog ∧ Catalog.resolve other kind = some a := by
  obtain ⟨listed, isMeant⟩ := mem_meant.1 means
  refine ⟨a :: catalog.erase a, (List.perm_cons_erase listed).symm, ?_⟩
  rw [resolve_eq, meant, List.filter_cons, if_pos isMeant, List.head?_cons]

theorem resolve_of_perm (single : ∀ a ∈ catalog.meant kind, ∀ b ∈ catalog.meant kind, a = b)
    (perm : other.Perm catalog) : other.resolve kind = catalog.resolve kind := by
  have same := meant_of_perm perm kind
  cases found : catalog.resolve kind with
  | none =>
    rw [resolve_eq_none_iff] at found ⊢
    exact List.perm_nil.1 (found ▸ same)
  | some a =>
    have listed := mem_meant_of_resolve found
    cases found' : other.resolve kind with
    | none =>
      rw [resolve_eq_none_iff.1 found'] at same
      exact absurd (same.symm.subset listed) List.not_mem_nil
    | some b =>
      rw [single b (same.subset (mem_meant_of_resolve found')) a listed]

end Resolving

section Rivals

variable {catalog : Catalog} {kind : String} {a b : Resource}

theorem sameIgnoringCase_trans {first second name : String}
    (one : Text.sameIgnoringCase first name = true) (two : Text.sameIgnoringCase second name = true) :
    Text.sameIgnoringCase first second = true := by
  simp only [Text.sameIgnoringCase, beq_iff_eq] at one two ⊢
  rw [one, two]

/-- By what the kind means each of the two: its plural or its kind. -/
theorem Distinct.rivals (distinct : catalog.Distinct) (first : a ∈ catalog.meant kind)
    (second : b ∈ catalog.meant kind) (apart : a ≠ b) : Rivals kind a b := by
  obtain ⟨listed, means⟩ := mem_meant.1 first
  obtain ⟨listed', means'⟩ := mem_meant.1 second
  simp only [Resource.isMeant, Bool.and_eq_true, Bool.or_eq_true, beq_iff_eq] at means means'
  by_cases together : a.group = b.group
  · rcases means.1 with plural | kind <;> rcases means'.1 with plural' | kind'
    · refine absurd (List.inj_on_of_nodup_map distinct.plurals listed listed' ?_) apart
      rw [together, plural, plural']
    · exact .plural together (plural ▸ kind')
    · exact .kind together (plural' ▸ kind)
    · refine .case together (fun same => apart ?_) (sameIgnoringCase_trans kind kind')
      refine List.inj_on_of_nodup_map distinct.kinds listed listed' ?_
      rw [together, same]
  · refine .groups together ?_
    cases grouped : (parts kind).2 with
    | none => rfl
    | some group =>
      rw [grouped] at means means'
      exact absurd ((beq_iff_eq.1 means.2).trans (beq_iff_eq.1 means'.2).symm) together

end Rivals

/-- Over all orders of a catalog a kind is resolved to each of the resources that it means, and to nothing
only if it means none. So the order is of no account if and only if the kind means one resource at most; and
of two that it means, either the kind leaves open which group is asked for, or they go by one name. -/
theorem resolve_in_any_order {catalog : Catalog} (distinct : catalog.Distinct) (kind : String) :
    (∀ other : Catalog, other.Perm catalog →
      (other.resolve kind = none ↔ catalog.resolve kind = none)) ∧
    (∀ resource, (∃ other : Catalog, other.Perm catalog ∧ other.resolve kind = some resource) ↔
      resource ∈ catalog.meant kind) ∧
    ((∀ other : Catalog, other.Perm catalog → other.resolve kind = catalog.resolve kind) ↔
      ∀ a ∈ catalog.meant kind, ∀ b ∈ catalog.meant kind, a = b) ∧
    ∀ a ∈ catalog.meant kind, ∀ b ∈ catalog.meant kind, a ≠ b → Rivals kind a b := by
  have some_order (resource : Resource) :
      (∃ other : Catalog, other.Perm catalog ∧ other.resolve kind = some resource) ↔
        resource ∈ catalog.meant kind := by
    refine ⟨?_, exists_order⟩
    rintro ⟨other, perm, found⟩
    exact (meant_of_perm perm kind).subset (mem_meant_of_resolve found)
  refine ⟨fun other perm => ?_, some_order, ⟨fun always a first b second => ?_, ?_⟩, ?_⟩
  · rw [resolve_eq_none_iff, resolve_eq_none_iff, ← List.length_eq_zero_iff,
      (meant_of_perm perm kind).length_eq, List.length_eq_zero_iff]
  · obtain ⟨other, perm, found⟩ := exists_order first
    obtain ⟨other', perm', found'⟩ := exists_order second
    rw [always other perm] at found
    rw [always other' perm'] at found'
    exact Option.some.inj (found.symm.trans found')
  · exact fun single other perm => resolve_of_perm single perm
  · exact fun a first b second apart => distinct.rivals first second apart

/-! Two groups have routes, and one of them also has edges, of which one is called by the plural of routes. -/

def shopRoutes : Resource := ⟨"shop", "shop/v1", "Route", "routes", true⟩
def shopEdges : Resource := ⟨"shop", "shop/v1", "Routes", "edges", true⟩
def exampleRoutes : Resource := ⟨"example.io", "example.io/v1", "Route", "routes", true⟩

/-- A route is one or the other by the order, unless its group is given with it. -/
theorem resolve_in_any_order_route :
    Distinct [shopRoutes, exampleRoutes] ∧
      (∃ other : Catalog, other.Perm [shopRoutes, exampleRoutes] ∧
        other.resolve "route" = some shopRoutes) ∧
      (∃ other : Catalog, other.Perm [shopRoutes, exampleRoutes] ∧
        other.resolve "route" = some exampleRoutes) ∧
      ∀ other : Catalog, other.Perm [shopRoutes, exampleRoutes] →
        other.resolve "Route.example.io" = some exampleRoutes := by
  have distinct : Distinct [shopRoutes, exampleRoutes] := ⟨by decide +kernel, by decide +kernel⟩
  have both : meant [shopRoutes, exampleRoutes] "route" = [shopRoutes, exampleRoutes] := by
    decide +kernel
  have one : meant [shopRoutes, exampleRoutes] "Route.example.io" = [exampleRoutes] := by
    decide +kernel
  obtain ⟨-, found, -, -⟩ := resolve_in_any_order distinct "route"
  obtain ⟨-, -, always, -⟩ := resolve_in_any_order distinct "Route.example.io"
  refine ⟨distinct, (found _).2 (by simp [both]), (found _).2 (by simp [both]), fun other perm => ?_⟩
  rw [always.2 (by simp [one]) other perm, resolve_eq, one, List.head?_cons]

/-- One kind means two resources of one group, and their order decides between them. -/
theorem order_decides_routes :
    Distinct [shopRoutes, shopEdges] ∧ [shopEdges, shopRoutes].Perm [shopRoutes, shopEdges] ∧
      resolve [shopRoutes, shopEdges] "routes" = some shopRoutes ∧
      resolve [shopEdges, shopRoutes] "routes" = some shopEdges ∧ shopRoutes ≠ shopEdges :=
  ⟨⟨by decide +kernel, by decide +kernel⟩, .swap .., by decide +kernel, by decide +kernel,
    by decide +kernel⟩

end Readiness.Api.Catalog
