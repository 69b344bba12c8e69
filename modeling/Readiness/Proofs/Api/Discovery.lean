import Mathlib.Data.List.Forall2
import Mathlib.Data.List.Induction
import Readiness.Api.Discovery
import Readiness.Proofs.Program

/-! What a server serves, said of its documents, and that a discovery which succeeds finds all of it.
Of a group only the version counts that the server prefers or, where it prefers none, one that is better
than all others; of groups with one name only the last one counts. -/
namespace Readiness.Api

namespace Version

theorem rank_inj {a b : Stability} : a.rank = b.rank ↔ a = b := by
  cases a <;> cases b <;> decide

theorem notAfter_total (a b : Version) : (a.notAfter b || b.notAfter a) = true := by
  have ranks := rank_inj (a := a.stability) (b := b.stability)
  unfold notAfter
  grind

theorem notAfter_trans {a b c : Version} (first : a.notAfter b = true)
    (second : b.notAfter c = true) : a.notAfter c = true := by
  unfold notAfter at *
  grind

end Version

namespace Discovery

theorem chosen_eq {g : Group} {e : Edition} (member : e ∈ g.editions)
    (preferred : ∀ best, g.preferred = some best →
      e.version = best ∧ ∀ other ∈ g.editions, other.version = e.version → other = e)
    (best : g.preferred = none → ∀ other ∈ g.editions, other = e ∨
      (Version.ofText other.version).notAfter (Version.ofText e.version) = false) :
    g.chosen = some e := by
  let better (a b : Edition) : Bool := (Version.ofText a.version).notAfter (Version.ofText b.version)
  let ranked := g.editions.mergeSort better
  have mem_ranked : ∀ {other : Edition}, other ∈ ranked ↔ other ∈ g.editions :=
    (List.mergeSort_perm g.editions better).mem_iff
  unfold Group.chosen
  cases known : g.preferred with
  | some wanted =>
    obtain ⟨rfl, alone⟩ := preferred wanted known
    obtain ⟨other, found⟩ : ∃ other, ranked.find? (·.version == e.version) = some other := by
      rw [← Option.isSome_iff_exists, List.find?_isSome]
      exact ⟨e, mem_ranked.2 member, beq_self_eq_true _⟩
    have same : other.version = e.version := by simpa using List.find?_some found
    obtain rfl := alone other (mem_ranked.1 (List.mem_of_find?_eq_some found)) same
    exact found
  | none =>
    have sorted : ranked.Pairwise fun a b => better a b = true := by
      apply List.pairwise_mergeSort
      · exact fun a b c => Version.notAfter_trans
      · exact fun a b => Version.notAfter_total ..
    change ranked.head? = some e
    obtain ⟨first, rest, order⟩ := List.exists_cons_of_ne_nil (List.ne_nil_of_mem (mem_ranked.2 member))
    have among : first ∈ g.editions := mem_ranked.1 (order ▸ List.mem_cons_self)
    have place : e = first ∨ e ∈ rest := List.mem_cons.1 (order ▸ mem_ranked.2 member)
    rw [order] at sorted ⊢
    rcases place with rfl | later
    · rfl
    · have ahead := (List.pairwise_cons.1 sorted).1 e later
      rcases best known first among with rfl | worse
      · rfl
      · cases ahead.symm.trans worse

theorem exists_kept {groups : List Group} {g : Group} (member : g ∈ groups) :
    ∃ kept, kept.name = g.name ∧ kept ∈ groups ∧
      kept ∈ groups.foldl (fun kept group => kept.filter (·.name != group.name) ++ [group]) [] := by
  induction groups using List.reverseRecOn with
  | nil => cases member
  | append_singleton groups last ih =>
    simp only [List.foldl_append, List.foldl_cons, List.foldl_nil, List.mem_append,
      List.mem_singleton, List.mem_filter] at member ⊢
    by_cases same : last.name = g.name
    · exact ⟨last, same, .inr rfl, .inr rfl⟩
    · obtain ⟨kept, named, among, stays⟩ := ih (member.resolve_right fun here => same (by rw [here]))
      exact ⟨kept, named, .inl among, .inl ⟨stays, by simpa [named] using Ne.symm same⟩⟩

theorem mem_catalogOf {groups : List Group} {g : Group} {resource : Resource} (member : g ∈ groups)
    (holds : ∀ later ∈ groups, later.name = g.name → resource ∈ later.resources) :
    resource ∈ catalogOf groups := by
  obtain ⟨kept, named, among, stays⟩ := exists_kept member
  exact List.mem_flatten_of_mem (List.mem_map_of_mem stays) (holds kept among named)

end Discovery

/-- A server that stays as it is: what it answers to each request, if it answers. -/
abbrev Server := Request → Option Reply

namespace Server

open Discovery
open Document (listAt)
open Json (Shape Value)

variable (server : Server)

def world (request : Request) (_ : Unit) : Option (Reply × Unit) := (server request).map (·, ())

/-- The server has a document of a shape at a path. -/
def Gives (shape : Shape) (path : String) (document : Value) : Prop :=
  ∃ request reply, Request.make .get path none = .ok request ∧ server request = some reply ∧
    reply.read shape = .ok document

end Server

/-- What is said of a group: where its versions lie, its name, each version with its path and the
preferred version. -/
structure Profile where
  root : String
  name : String
  versions : List (String × String)
  preferred : Option String

namespace Profile

open Discovery
open Document (listAt)
open Json (Value)

def ofEntry (entry : Value) : Profile where
  root := "/apis/"
  name := (entry.text? "name").getD ""
  versions := (listAt entry "versions").map fun version =>
    ((version.text? "version").getD "", (version.text? "groupVersion").getD "")
  preferred := (entry.member? "preferredVersion").bind fun version => version.text? "version"

def core (document : Value) : Profile where
  root := "/api/"
  name := ""
  versions := ((listAt document "versions").filterMap Value.string?).map fun version =>
    (version, version)
  preferred := some "v1"

/-- The version of a group that a client goes by. -/
structure Recommends (profile : Profile) (version path : String) : Prop where
  listed : (version, path) ∈ profile.versions
  preferred : ∀ best, profile.preferred = some best →
    version = best ∧ ∀ other, (best, other) ∈ profile.versions → other = path
  best : profile.preferred = none → ∀ other ∈ profile.versions, other = (version, path) ∨
    (Version.ofText other.1).notAfter (Version.ofText version) = false

end Profile

namespace Server

open Discovery
open Document (listAt)
open Json (Shape Value)

variable (server : Server)

inductive Describes : Profile → Prop
  | group {document entry : Value} (given : server.Gives groupsShape "/apis" document)
    (listed : entry ∈ listAt document "groups") : Describes (.ofEntry entry)
  | core {document : Value} (given : server.Gives versionsShape "/api" document) :
    Describes (.core document)

/-- A resource is listed for the version of a group that a client goes by. -/
structure Offers (profile : Profile) (resource : Resource) : Prop where
  found : ∃ version path document, profile.Recommends version path ∧
    server.Gives resourcesShape (profile.root ++ path) document ∧ resource ∈ resourcesOf document

/-- The server has a resource, however it describes the group of the resource. -/
structure Serves (resource : Resource) : Prop where
  found : ∃ name, (∃ profile, server.Describes profile ∧ profile.name = name) ∧
    ∀ profile, server.Describes profile → profile.name = name → server.Offers profile resource

theorem exists_counterpart {α β : Type} {R : α → β → Prop} {as : List α} {bs : List β}
    (related : List.Forall₂ R as bs) {a : α} (member : a ∈ as) : ∃ b ∈ bs, R a b := by
  induction related with
  | nil => cases member
  | cons here _ ih =>
    rcases List.mem_cons.1 member with rfl | later
    · exact ⟨_, List.mem_cons_self, here⟩
    · obtain ⟨b, among, holds⟩ := ih later
      exact ⟨b, List.mem_cons_of_mem _ among, holds⟩

variable {server}

theorem Gives.unique {shape : Shape} {path : String} {document document' : Value}
    (given : server.Gives shape path document) (given' : server.Gives shape path document') :
    document = document' := by
  obtain ⟨request, reply, made, replied, read⟩ := given
  obtain ⟨request', reply', made', replied', read'⟩ := given'
  obtain rfl := Except.ok.inj (made.symm.trans made')
  obtain rfl := Option.some.inj (replied.symm.trans replied')
  exact Except.ok.inj (read.symm.trans read')

theorem gives_of_load {shape : Shape} {path : String} {document : Value}
    (loaded : (load shape path).run server.world () = some (.ok document, ())) :
    server.Gives shape path document := by
  rw [load] at loaded
  cases made : Request.make .get path none with
  | error detail => simp [made, Except.mapError, exchange] at loaded
  | ok request =>
    rw [made, Except.mapError, exchange, Program.run_bind, Program.run_perform, world] at loaded
    cases replied : server request with
    | none => simp [replied] at loaded
    | some reply =>
      simp only [replied, Option.map_some, Option.bind_some, Program.run_pure, Option.some.injEq,
        Prod.mk.injEq, and_true] at loaded
      exact ⟨request, reply, made, replied, loaded⟩

structure Shows (server : Server) (profile : Profile) (group : Group) : Prop where
  name : group.name = profile.name
  preferred : group.preferred = profile.preferred
  editions : List.Forall₂ (fun version edition => ∃ document,
    server.Gives resourcesShape (profile.root ++ version.2) document ∧
      edition = ⟨version.1, resourcesOf document⟩) profile.versions group.editions

theorem run_edition {root version path : String} {e : Edition}
    (ran : (edition root version path).run server.world () = some (.ok e, ())) :
    ∃ document, server.Gives resourcesShape (root ++ path) document ∧
      e = ⟨version, resourcesOf document⟩ := by
  rw [edition] at ran
  obtain ⟨document, _, loaded, ended⟩ := Program.run_bind_ok ran fun e => ⟨e, rfl⟩
  exact ⟨document, gives_of_load loaded, by simpa using ended.symm⟩

theorem run_editions {root : String} {versions : List (String × String)} {es : List Edition}
    (ran : (editions root versions).run server.world () = some (.ok es, ())) :
    List.Forall₂ (fun version edition => ∃ document,
      server.Gives resourcesShape (root ++ version.2) document ∧
        edition = ⟨version.1, resourcesOf document⟩) versions es := by
  induction versions generalizing es with
  | nil =>
    obtain rfl : [] = es := by simpa [editions] using ran
    exact .nil
  | cons version rest ih =>
    rw [editions] at ran
    obtain ⟨first, _, began, ran⟩ := Program.run_bind_ok ran fun e => ⟨e, rfl⟩
    obtain ⟨more, _, went, ended⟩ := Program.run_bind_ok ran fun e => ⟨e, rfl⟩
    obtain rfl : first :: more = es := by simpa [Except.map] using ended
    exact .cons (run_edition began) (ih went)

theorem shows_of_group (profile : Profile) {g : Group}
    (ran : (group profile.root profile.name profile.preferred profile.versions).run server.world () =
      some (.ok g, ())) : server.Shows profile g := by
  rw [group] at ran
  split at ran
  · simp at ran
  · obtain ⟨found, _, went, ended⟩ := Program.run_bind_ok ran fun e => ⟨e, rfl⟩
    obtain rfl : ⟨profile.name, found, profile.preferred⟩ = g := by
      simpa [Except.map] using ended
    exact ⟨rfl, rfl, run_editions went⟩

theorem run_describedGroups {entries : List Value} {groups : List Group}
    (ran : (describedGroups entries).run server.world () = some (.ok groups, ())) :
    List.Forall₂ (fun entry g => server.Shows (.ofEntry entry) g) entries groups := by
  induction entries generalizing groups with
  | nil =>
    obtain rfl : [] = groups := by simpa [describedGroups] using ran
    exact .nil
  | cons entry rest ih =>
    rw [describedGroups] at ran
    obtain ⟨first, _, began, ran⟩ := Program.run_bind_ok ran fun e => ⟨e, rfl⟩
    obtain ⟨more, _, went, ended⟩ := Program.run_bind_ok ran fun e => ⟨e, rfl⟩
    obtain rfl : first :: more = groups := by simpa [Except.map] using ended
    exact .cons (shows_of_group (.ofEntry entry) began) (ih went)

theorem run_coreGroup {g : Group} (ran : coreGroup.run server.world () = some (.ok g, ())) :
    ∃ document, server.Gives versionsShape "/api" document ∧ server.Shows (.core document) g := by
  rw [coreGroup] at ran
  obtain ⟨document, _, loaded, ran⟩ := Program.run_bind_ok ran fun e => ⟨e, rfl⟩
  exact ⟨document, gives_of_load loaded, shows_of_group (.core document) ran⟩

/-- A discovery that succeeds makes a group of every profile, and nothing else. -/
theorem run_discovery {catalog : Catalog}
    (ran : Discovery.run.run server.world () = some (.ok catalog, ())) :
    ∃ groups, catalog = catalogOf groups ∧
      (∀ g ∈ groups, ∃ profile, server.Describes profile ∧ server.Shows profile g) ∧
      ∀ profile, server.Describes profile → ∃ g ∈ groups, server.Shows profile g := by
  rw [Discovery.run] at ran
  obtain ⟨document, _, loaded, ran⟩ := Program.run_bind_ok ran fun e => ⟨e, rfl⟩
  obtain ⟨groups, _, described, ran⟩ := Program.run_bind_ok ran fun e => ⟨e, rfl⟩
  obtain ⟨core, _, last, ran⟩ := Program.run_bind_ok ran fun e => ⟨e, rfl⟩
  obtain rfl : catalogOf (groups ++ [core]) = catalog := by simpa using ran
  have given := gives_of_load loaded
  have shown := run_describedGroups described
  obtain ⟨versions, givenToo, coreShown⟩ := run_coreGroup last
  refine ⟨_, rfl, ?made, ?complete⟩
  case made =>
    rw [List.forall_mem_append, List.forall_mem_singleton]
    refine ⟨fun g member => ?_, _, .core givenToo, coreShown⟩
    obtain ⟨entry, listed, shows⟩ := exists_counterpart shown.flip member
    exact ⟨_, .group given listed, shows⟩
  case complete =>
    intro profile describes
    cases describes with
    | @group document' entry given' listed =>
      obtain rfl := given.unique given'
      obtain ⟨g, member, shows⟩ := exists_counterpart shown listed
      exact ⟨g, List.mem_append_left _ member, shows⟩
    | core given' =>
      obtain rfl := givenToo.unique given'
      exact ⟨core, by simp, coreShown⟩

theorem Shows.mem_resources {profile : Profile} {g : Group} {resource : Resource}
    (shows : server.Shows profile g) (offers : server.Offers profile resource) :
    resource ∈ g.resources := by
  obtain ⟨version, path, document, recommends, given, listed⟩ := offers.found
  have editionOf : ∀ {other : Edition}, other ∈ g.editions → ∃ entry ∈ profile.versions,
      other.version = entry.1 ∧ (entry = (version, path) → other = ⟨version, resourcesOf document⟩) := by
    intro other member
    obtain ⟨entry, listed, document', given', rfl⟩ := exists_counterpart shows.editions.flip member
    refine ⟨entry, listed, rfl, ?_⟩
    rintro rfl
    rw [given.unique given']
  obtain ⟨found, member, document', given', rfl⟩ :=
    exists_counterpart shows.editions recommends.listed
  obtain rfl := given.unique given'
  have chosen : g.chosen = some ⟨version, resourcesOf document⟩ := by
    apply chosen_eq member
    · intro best preferred
      rw [shows.preferred] at preferred
      obtain ⟨rfl, alone⟩ := recommends.preferred best preferred
      refine ⟨rfl, fun other among same => ?_⟩
      obtain ⟨entry, listed, versioned, isThis⟩ := editionOf among
      obtain ⟨name, path'⟩ := entry
      obtain rfl : name = version := versioned.symm.trans same
      exact isThis (by rw [alone path' listed])
    · intro none other among
      rw [shows.preferred] at none
      obtain ⟨entry, listed, versioned, isThis⟩ := editionOf among
      rcases recommends.best none entry listed with same | worse
      · exact .inl (isThis same)
      · exact .inr (by rwa [versioned])
  rw [Group.resources, chosen]
  exact listed

theorem Serves.mem_catalog {catalog : Catalog} {resource : Resource}
    (serves : server.Serves resource)
    (ran : Discovery.run.run server.world () = some (.ok catalog, ())) : resource ∈ catalog := by
  obtain ⟨name, ⟨profile, describes, called⟩, offers⟩ := serves.found
  obtain ⟨groups, rfl, made, complete⟩ := run_discovery ran
  obtain ⟨g, among, shows⟩ := complete profile describes
  apply mem_catalogOf among
  intro later member same
  obtain ⟨other, describes', shows'⟩ := made later member
  apply shows'.mem_resources
  apply offers other describes'
  rw [← shows'.name, same, shows.name, called]

end Server

end Readiness.Api
