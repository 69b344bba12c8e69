import Mathlib.Data.List.Infix
import Readiness.Proofs.Api.Client
import Readiness.Proofs.Api.Discovery
import Readiness.Proofs.Text.Parts

/-! Which kinds a client knows over a sequence of calls. The first discovery that succeeds is the last
one: every later call looks its kind up in what was served then, whatever is served now. -/
namespace Readiness

theorem Text.sameIgnoringCase_lower {a b : String} (same : Text.sameIgnoringCase a b = true) :
    Text.sameIgnoringCase a (Text.lower b) = true := by
  have lowered : ∀ c : Char, c.toLower.toLower = c.toLower := by
    intro c
    unfold Char.toLower
    grind
  simp only [sameIgnoringCase, beq_iff_eq] at same ⊢
  rw [same, lower, String.toList_ofList, List.map_map]
  exact List.map_congr_left fun c _ => (lowered c).symm

def Cluster.Call.kind? : Cluster.Call → Option String
  | fetch q => some q.kind
  | list kind _ => some kind
  | _ => none

def errorOf {α : Type} : Except FetchError α → Option FetchError
  | .error e => some e
  | .ok _ => none

theorem eq_error_of_errorOf {α : Type} {answer : Except FetchError α} {e : FetchError}
    (failed : errorOf answer = some e) : answer = .error e := by
  cases answer with
  | error other => rw [Option.some.inj failed]
  | ok value => cases failed

def Cluster.Call.failure? : (call : Cluster.Call) → call.Answer → Option FetchError
  | fetch _ => errorOf
  | list _ _ => errorOf
  | hasNamespace _ => errorOf
  | createNamespace _ => errorOf
  | ping => errorOf

namespace Api

/-- A name stands for a resource: it is the plural in letters of either case, or the kind, and the table
of other names does not lead away from the resource. -/
structure Resource.IsNamed (resource : Resource) (name : String) : Prop where
  same : resource.plural = Text.lower name ∨ Text.sameIgnoringCase resource.kind name = true
  straight : Cluster.Kind.aliases.lookup (Text.lower name) = none ∨
    Cluster.Kind.aliases.lookup (Text.lower name) = some resource.plural

/-- How a resource is asked for: by its name alone, or with its group after a point. -/
inductive Resource.IsCalled (resource : Resource) : String → Prop
  | plain {name : String} (pointless : '.' ∉ name.toList) (named : resource.IsNamed name) :
    IsCalled resource name
  | grouped {name : String} (pointless : '.' ∉ name.toList) (named : resource.IsNamed name) :
    IsCalled resource (name ++ "." ++ resource.group)

theorem Resource.IsNamed.canonical {resource : Resource} {name : String}
    (named : resource.IsNamed name) :
    (resource.plural == Cluster.Kind.canonical name ||
      Text.sameIgnoringCase resource.kind (Cluster.Kind.canonical name)) = true := by
  rw [Cluster.Kind.canonical]
  rcases named.straight with none | plural
  · rw [none, Option.getD_none]
    rcases named.same with plural | kind
    · simp [plural]
    · simp [Text.sameIgnoringCase_lower kind]
  · simp [plural]

theorem Resource.IsCalled.isMeant {resource : Resource} {kind : String}
    (called : resource.IsCalled kind) :
    resource.isMeant (Cluster.Kind.canonical (Catalog.parts kind).1) (Catalog.parts kind).2 = true := by
  cases called with
  | plain pointless named =>
    have whole : Text.cutOf '.' kind = none := by
      rw [Text.cutOf, Option.map_eq_none_iff, Option.eq_none_iff_forall_ne_some]
      rintro ⟨before, after⟩ found
      obtain ⟨split, -⟩ := Text.cut_eq_some_iff.1 found
      exact pointless (by simp [split])
    simp [Catalog.parts, whole, Resource.isMeant, named.canonical]
  | @grouped name pointless named =>
    have parted : Text.cutOf '.' (name ++ "." ++ resource.group) = some (name, resource.group) := by
      have split : (name ++ "." ++ resource.group).toList =
        name.toList ++ '.' :: resource.group.toList := by simp
      rw [Text.cutOf, Text.cut_eq_some_iff.2 ⟨split, pointless⟩]
      simp
    simp [Catalog.parts, parted, Resource.isMeant, named.canonical]

theorem Resource.IsCalled.resolved {resource : Resource} {kind : String} {catalog : Catalog}
    (called : resource.IsCalled kind) (listed : resource ∈ catalog) : catalog.resolve kind ≠ none := by
  rw [Catalog.resolve, ne_eq, List.find?_eq_none]
  exact fun none => none resource listed called.isMeant

/-! ## What else a call fails with -/

section Marks

variable {lead mark : List Char}

/-- A kind and a mark after it are not what one says of an unknown kind, where the mark does not stand in
the words before the kind. -/
theorem append_mark_ne (nonempty : lead ≠ [])
    (apart : ∀ part ∈ lead.tails, part ≠ [] → ¬ mark <+: part ∧ ¬ part <+: mark)
    (kind after rest : List Char) : kind ++ (mark ++ after) ≠ lead ++ (kind ++ rest) := by
  have unlike : ∀ part tail, part <:+ lead → part ≠ [] → mark ++ after ≠ part ++ tail := by
    intro part tail suffix some same
    obtain ⟨notMark, notPart⟩ := apart part ((List.mem_tails _ _).2 suffix) some
    rcases List.prefix_or_prefix_of_prefix (List.prefix_append mark after)
      (same ▸ List.prefix_append part tail) with shorter | longer
    · exact notMark shorter
    · exact notPart longer
  induction size : kind.length using Nat.strong_induction_on generalizing kind with
  | _ n ih =>
    intro same
    rcases List.append_eq_append_iff.1 same with ⟨part, split, left⟩ | ⟨more, split, left⟩
    · by_cases none : part = []
      · subst none
        rw [List.append_nil] at split
        subst split
        exact unlike lead rest List.suffix_rfl nonempty left
      · exact unlike part _ ⟨kind, split.symm⟩ none left
    · subst split
      rw [List.append_assoc] at left
      refine ih more.length ?_ more rfl left.symm
      rw [← size, List.length_append]
      have := List.length_pos_iff.2 nonempty
      omega

end Marks

theorem Failure.asFetch_ne_invalid {context text : String}
    (apart : ∀ detail, context ++ ": " ++ detail ≠ text) (failure : Failure) :
    failure.asFetch context ≠ .invalid text := by
  have refused : ∀ status : Status, ofStatus status (context ++ ": " ++ status.message) ≠
      .invalid text := by
    intro status
    unfold ofStatus
    split <;> simp [apart]
  cases failure <;> simp [asFetch, refused, apart]

namespace Client

def unknownWords : List Char := "unknown resource kind `".toList

theorem text_ne_unknown {kind : String} (mark : List Char) {text : String} {after : List Char}
    (begins : text.toList = kind.toList ++ (mark ++ after))
    (apart : ∀ part ∈ unknownWords.tails, part ≠ [] → ¬ mark <+: part ∧ ¬ part <+: mark) :
    text ≠ "unknown resource kind `" ++ kind ++ "`" := by
  intro same
  have chars := congrArg String.toList same
  rw [begins, String.toList_append, String.toList_append, List.append_assoc] at chars
  exact append_mark_ne (by decide) apart _ _ _ chars

theorem ne_unknown_of_head {kind text : String} {c : Char} (begins : text.toList.head? = some c)
    (other : c ≠ 'u') : text ≠ "unknown resource kind `" ++ kind ++ "`" := by
  rintro rfl
  exact other (Option.some.inj (begins.symm.trans (by simp)))

theorem fetchOf_never_unknown (q : Query) (resource : Resource) :
    (fetchOf q resource).Ends (· ≠ .error (unknownKind q.kind)) := by
  rw [fetchOf, Program.ends_bind]
  apply Program.ends_of_forall
  rintro (failure | document)
  · simp only [Program.ends_pure, ne_eq, Except.error.injEq]
    apply failure.asFetch_ne_invalid
    intro detail
    exact text_ne_unknown ['/'] (by simp [Query.text]; rfl) (by decide)
  · simp only [Program.ends_pure, Document.reading, Cluster.stateAt]
    split
    · simp [Except.map]
    · split
      · simp [Except.map]
      · simp only [Except.map, unknownKind, ne_eq, Except.error.injEq, FetchError.invalid.injEq]
        refine ne_unknown_of_head (c := 'i') ?_ (by decide)
        unfold Json.Path.Error.message Json.Path.complaint
        simp

theorem listOf_never_unknown (kind space : String) (resource : Resource) :
    (listOf kind space resource).Ends (· ≠ .error (unknownKind kind)) := by
  rw [listOf, Program.ends_bind]
  apply Program.ends_of_forall
  rintro (failure | document)
  · simp only [Program.ends_pure, ne_eq, Except.error.injEq]
    apply failure.asFetch_ne_invalid
    intro detail
    exact text_ne_unknown [' ', '-'] (by simp [listContext]; rfl) (by decide)
  · have readings : (Document.listAt document "items").mapM (Document.reading · none) =
        pure ((Document.listAt document "items").map fun item =>
          ⟨Document.name item, (Cluster.phase? item).getD Cluster.present⟩) := List.mapM_pure
    simp only [readings]
    intro same
    cases same

theorem discovery_never_unknown (failure : Failure) (kind : String) :
    failure.asFetch "api discovery" ≠ unknownKind kind := by
  apply failure.asFetch_ne_invalid
  intro detail
  exact ne_unknown_of_head (c := 'a') (by simp) (by decide)

/-- The catalog that a client has after a call: it had it before, or has found it in this call. -/
structure Holds (server : Server) (before after : Client) (catalog : Catalog) : Prop where
  held : after = ⟨some catalog⟩
  source : before = after ∨
    before = {} ∧ Discovery.run.run server.world () = some (.ok catalog, ())

section Calls

variable {server : Server} {before after : Client}

theorem run_discovered {found : Except FetchError Catalog}
    (ran : before.discovered.run server.world () = some ((found, after), ())) :
    (before = {} ∧ after = {} ∧
      ∃ failure : Failure, found = .error (failure.asFetch "api discovery")) ∨
    ∃ catalog, found = .ok catalog ∧ Holds server before after catalog := by
  obtain ⟨catalog⟩ := before
  cases catalog with
  | some catalog =>
    simp only [discovered, Program.run_pure, Option.some.injEq, Prod.mk.injEq, and_true] at ran
    obtain ⟨rfl, rfl⟩ := ran
    exact .inr ⟨catalog, rfl, rfl, .inl rfl⟩
  | none =>
    simp only [discovered] at ran
    rw [Program.run_bind, Option.bind_eq_some_iff] at ran
    obtain ⟨⟨failure | catalog, _⟩, went, ended⟩ := ran
    · simp only [Program.run_pure, Option.some.injEq, Prod.mk.injEq, and_true] at ended
      obtain ⟨rfl, rfl⟩ := ended
      exact .inl ⟨rfl, rfl, failure, rfl⟩
    · simp only [Program.run_pure, Option.some.injEq, Prod.mk.injEq, and_true] at ended
      obtain ⟨rfl, rfl⟩ := ended
      exact .inr ⟨catalog, rfl, rfl, .inr ⟨rfl, went⟩⟩

/-- A call that looks up a kind leaves the client without a catalog, and then says nothing about the
kind, or it leaves the client with the catalog in which the kind was looked up. -/
theorem run_withKind_holds {α : Type} {kind : String} {answer : Except FetchError α}
    {use : Resource → Session (Except FetchError α)}
    (silent : ∀ resource, (use resource).Ends (· ≠ .error (unknownKind kind)))
    (ran : (before.withKind kind use).run server.world () = some ((answer, after), ())) :
    (before = {} ∧ after = {} ∧ answer ≠ .error (unknownKind kind)) ∨
    ∃ catalog, Holds server before after catalog ∧
      (answer = .error (unknownKind kind) → catalog.resolve kind = none) := by
  rw [run_withKind, Option.bind_eq_some_iff] at ran
  obtain ⟨⟨⟨found, known⟩, _⟩, looked, ran⟩ := ran
  rcases run_discovered looked with ⟨none, rfl, failure, rfl⟩ | ⟨catalog, rfl, holds⟩
  · simp only [Option.some.injEq, Prod.mk.injEq, and_true] at ran
    obtain ⟨rfl, rfl⟩ := ran
    refine .inl ⟨none, rfl, fun same => ?_⟩
    exact discovery_never_unknown failure kind (Except.error.inj same)
  · simp only at ran
    cases resolved : catalog.resolve kind with
    | none =>
      simp only [resolved, Option.elim_none, Option.some.injEq, Prod.mk.injEq, and_true] at ran
      obtain ⟨-, rfl⟩ := ran
      exact .inr ⟨catalog, holds, fun _ => resolved⟩
    | some resource =>
      simp only [resolved, Option.elim_some, Option.map_eq_some_iff] at ran
      obtain ⟨⟨given, _⟩, used, same⟩ := ran
      simp only [Prod.mk.injEq, and_true] at same
      obtain ⟨rfl, rfl⟩ := same
      exact .inr ⟨catalog, holds, fun rejected => absurd rejected ((silent resource).of_run used)⟩

end Calls

end Client

/-! ## Sequences of calls -/

/-- A call, the server as it is meanwhile, and the answer: none, if the caller gives up. -/
structure Turn where
  server : Server
  call : Cluster.Call
  answer : Option call.Answer

namespace Turn

/-- What a call makes of a client. One that is given up early leaves it as it was. -/
inductive Leads : Turn → Client → Client → Prop
  | answered {server : Server} {call : Cluster.Call} {answer : call.Answer} {before after : Client}
    (ran : (before.answer call).run server.world () = some ((answer, after), ())) :
    Leads ⟨server, call, some answer⟩ before after
  | leftEarly {server : Server} {call : Cluster.Call} {client : Client} :
    Leads ⟨server, call, none⟩ client client
  | leftLate {server : Server} {call : Cluster.Call} {kind : String} {catalog : Catalog}
    {before after : Client} (looks : call.kind? = some kind)
    (ran : before.discovered.run server.world () = some ((.ok catalog, after), ())) :
    Leads ⟨server, call, none⟩ before after

def Rejects (turn : Turn) (kind : String) : Prop :=
  turn.call.kind? = some kind ∧ ∃ answer, turn.answer = some answer ∧
    turn.call.failure? answer = some (Client.unknownKind kind)

/-- After a call the client has no catalog yet, and no kind is rejected, or it has one, and only a kind
that does not stand in there is rejected. -/
structure Judges (turn : Turn) (before after : Client) : Prop where
  either : (before = {} ∧ after = {} ∧ ∀ kind, ¬ turn.Rejects kind) ∨
    ∃ catalog, Client.Holds turn.server before after catalog ∧
      ∀ kind, turn.Rejects kind → catalog.resolve kind = none

theorem judges_of_silent {turn : Turn} {client : Client} (silent : ∀ kind, ¬ turn.Rejects kind) :
    turn.Judges client client := by
  obtain ⟨catalog⟩ := client
  cases catalog with
  | none => exact ⟨.inl ⟨rfl, rfl, silent⟩⟩
  | some catalog =>
    exact ⟨.inr ⟨catalog, ⟨rfl, .inl rfl⟩, fun kind rejects => absurd rejects (silent kind)⟩⟩

theorem not_rejects_of_left {server : Server} {call : Cluster.Call} {kind : String} :
    ¬ (⟨server, call, none⟩ : Turn).Rejects kind := by
  rintro ⟨-, answer, given, -⟩
  cases given

theorem judges_of_kindless {server : Server} {before after : Client} {call : Cluster.Call}
    {answer : call.Answer} (kindless : call.kind? = none) (program : Session call.Answer)
    (ran : (do return (← program, before) : Session (call.Answer × Client)).run server.world () =
      some ((answer, after), ())) : (⟨server, call, some answer⟩ : Turn).Judges before after := by
  rw [Program.run_bind, Option.bind_eq_some_iff] at ran
  obtain ⟨⟨given, _⟩, -, same⟩ := ran
  simp only [Program.run_pure, Option.some.injEq, Prod.mk.injEq, and_true] at same
  obtain ⟨rfl, rfl⟩ := same
  exact judges_of_silent fun kind rejects => nomatch kindless.symm.trans rejects.1

theorem judges_of_withKind {α : Type} {turn : Turn} {before after : Client} {kind : String}
    {answer : Except FetchError α} {use : Resource → Session (Except FetchError α)}
    (asks : turn.call.kind? = some kind)
    (tells : turn.Rejects kind → answer = .error (Client.unknownKind kind))
    (silent : ∀ resource, (use resource).Ends (· ≠ .error (Client.unknownKind kind)))
    (ran : (before.withKind kind use).run turn.server.world () = some ((answer, after), ())) :
    turn.Judges before after := by
  have itsKind : ∀ {other}, turn.Rejects other → other = kind := fun rejects =>
    (Option.some.inj (asks.symm.trans rejects.1)).symm
  rcases Client.run_withKind_holds silent ran with ⟨none, none', other⟩ | ⟨catalog, holds, missing⟩
  · refine ⟨.inl ⟨none, none', fun kind' rejects => ?_⟩⟩
    obtain rfl := itsKind rejects
    exact other (tells rejects)
  · refine ⟨.inr ⟨catalog, holds, fun kind' rejects => ?_⟩⟩
    obtain rfl := itsKind rejects
    exact missing (tells rejects)

theorem Leads.judges {turn : Turn} {before after : Client} (leads : turn.Leads before after) :
    turn.Judges before after := by
  cases leads with
  | @answered server call answer _ _ ran =>
    cases call with
    | fetch q =>
      refine judges_of_withKind rfl ?_ (Client.fetchOf_never_unknown q) ran
      rintro ⟨-, answer, same, failed⟩
      cases same
      exact eq_error_of_errorOf failed
    | list kind space =>
      refine judges_of_withKind rfl ?_ (Client.listOf_never_unknown kind space) ran
      rintro ⟨-, answer, same, failed⟩
      cases same
      exact eq_error_of_errorOf failed
    | hasNamespace name => exact judges_of_kindless rfl _ ran
    | createNamespace name => exact judges_of_kindless rfl _ ran
    | ping => exact judges_of_kindless rfl _ ran
  | leftEarly => exact judges_of_silent fun kind => not_rejects_of_left
  | leftLate looks ran =>
    rcases Client.run_discovered ran with ⟨-, -, failure, same⟩ | ⟨catalog, -, holds⟩
    · cases same
    · exact ⟨.inr ⟨catalog, holds, fun kind rejects => absurd rejects not_rejects_of_left⟩⟩

end Turn

inductive Calls : Client → List Turn → Client → Prop
  | nil {client : Client} : Calls client [] client
  | cons {before middle after : Client} {turn : Turn} {turns : List Turn}
    (leads : turn.Leads before middle) (rest : Calls middle turns after) :
    Calls before (turn :: turns) after

theorem Calls.known {turns : List Turn} {catalog : Catalog} {before last : Client}
    (calls : Calls before turns last) (known : before = ⟨some catalog⟩) :
    last = ⟨some catalog⟩ ∧ ∀ turn ∈ turns, ∀ kind, turn.Rejects kind → catalog.resolve kind = none := by
  induction calls with
  | nil => exact ⟨known, by simp⟩
  | @cons before middle after turn turns leads rest ih =>
    subst known
    rcases leads.judges.either with ⟨none, -, -⟩ | ⟨found, ⟨rfl, source⟩, judged⟩
    · cases none
    · obtain rfl : catalog = found := by
        rcases source with same | ⟨none, -⟩
        · cases same
          rfl
        · cases none
      obtain ⟨stays, later⟩ := ih rfl
      exact ⟨stays, List.forall_mem_cons.2 ⟨judged, later⟩⟩

/-- Up to the first call in which a discovery succeeds no kind is rejected, and from then on only kinds that
are missing in what was found. -/
theorem Calls.split {turns : List Turn} {before last : Client} (calls : Calls before turns last)
    (fresh : before = {}) :
    (last = {} ∧ ∀ turn ∈ turns, ∀ kind, ¬ turn.Rejects kind) ∨
    ∃ early source late catalog, turns = early ++ source :: late ∧ Calls {} early {} ∧
      source.Leads {} ⟨some catalog⟩ ∧ last = ⟨some catalog⟩ ∧
      Discovery.run.run source.server.world () = some (.ok catalog, ()) ∧
      (∀ turn ∈ early, ∀ kind, ¬ turn.Rejects kind) ∧
      ∀ turn ∈ source :: late, ∀ kind, turn.Rejects kind → catalog.resolve kind = none := by
  induction calls with
  | nil => exact .inl ⟨fresh, by simp⟩
  | @cons before middle after turn turns leads rest ih =>
    subst fresh
    rcases leads.judges.either with ⟨-, rfl, silent⟩ | ⟨catalog, ⟨rfl, source⟩, judged⟩
    · rcases ih rfl with ⟨none, later⟩ | ⟨early, source, late, catalog, rfl, started, made, stays, ran,
        before, after⟩
      · exact .inl ⟨none, List.forall_mem_cons.2 ⟨silent, later⟩⟩
      · exact .inr ⟨turn :: early, source, late, catalog, rfl, .cons leads started, made, stays, ran,
          List.forall_mem_cons.2 ⟨silent, before⟩, after⟩
    · rcases source with same | ⟨-, ran⟩
      · cases same
      · obtain ⟨stays, later⟩ := rest.known rfl
        exact .inr ⟨[], turn, turns, catalog, rfl, .nil, leads, stays, ran, by simp,
          List.forall_mem_cons.2 ⟨judged, later⟩⟩

/-- Among the calls of a client, one is told that its kind is unknown only if no resource that is called so
was served in the call in which the client found out what is served: the first one in which that
succeeded. -/
theorem served_kind_not_rejected {turns : List Turn} {last : Client} (calls : Calls {} turns last) :
    (last = {} ∧ ∀ turn ∈ turns, ∀ kind, ¬ turn.Rejects kind) ∨
    ∃ early source late catalog, turns = early ++ source :: late ∧ Calls {} early {} ∧
      source.Leads {} ⟨some catalog⟩ ∧ last = ⟨some catalog⟩ ∧
      Discovery.run.run source.server.world () = some (.ok catalog, ()) ∧
      (∀ turn ∈ early, ∀ kind, ¬ turn.Rejects kind) ∧
      ∀ turn ∈ source :: late, ∀ kind resource, source.server.Serves resource →
        resource.IsCalled kind → ¬ turn.Rejects kind := by
  rcases calls.split rfl with none | ⟨early, source, late, catalog, split, started, made, stays, ran,
    before, after⟩
  · exact .inl none
  · refine .inr ⟨early, source, late, catalog, split, started, made, stays, ran, before, ?_⟩
    intro turn member kind resource serves called rejects
    exact called.resolved (serves.mem_catalog ran) (after turn member kind rejects)

/-! ## A kind that comes later -/

section Shop

open Discovery
open Json (Value)

def widgets : Resource := ⟨"shop", "shop/v1", "Widget", "widgets", true⟩

def widgetGroup : Value :=
  .object [("name", .string "shop"), ("versions", .array [
    .object [("groupVersion", .string "shop/v1"), ("version", .string "v1")]])]

def widgetList : Value :=
  .object [("groupVersion", .string "shop/v1"), ("resources", .array [
    .object [("kind", .string "Widget"), ("name", .string "widgets"), ("namespaced", .bool true),
      ("singularName", .string "")]])]

/-- A server that has no core resources, and widgets or not. -/
def shop (installed : Bool) : Server := fun request =>
  ([("/apis", .object [("groups", .array (if installed then [widgetGroup] else []))]),
    ("/apis/shop/v1", widgetList), ("/api", .object [("versions", .array [.string "v1"])]),
    ("/api/v1", .object []),
    ("/apis/shop/v1/namespaces/shop/widgets?", .object [("items", .array [])])].lookup
      request.path).map fun document => .answered 200 document.text

theorem widgets_isCalled : widgets.IsCalled "widget" :=
  .plain (by decide) ⟨by decide, by decide⟩

theorem widgets_isCalled_grouped : widgets.IsCalled "Widget.shop" := by
  have named : widgets.IsNamed "Widget" := ⟨by decide, by decide⟩
  exact .grouped (by decide) named

def unreachable : Server := fun _ => some (.broken "connection refused")

def listing (server : Server) (kind : String) (answer : Except FetchError (List Reading)) : Turn :=
  ⟨server, .list kind "shop", some answer⟩

theorem discovery_unreachable :
    Discovery.run.run unreachable.world () = some (.error (.service "connection refused"), ()) := by
  have made : Request.make .get "/apis" none = .ok ⟨.get, "/apis", none⟩ := rfl
  rw [Discovery.run, load, made]
  rfl

theorem listing_unreachable : (listing unreachable "widget"
    (.error (.transient "api discovery: ServiceError: connection refused"))).Leads {} {} := by
  refine .answered ?_
  change (Client.withKind {} "widget" (Client.listOf "widget" "shop")).run unreachable.world () = _
  rw [Client.run_withKind, Client.discovered]
  simp only [Program.run_bind, discovery_unreachable, Option.bind_some, Program.run_pure]
  rfl

theorem shop_gives_groups :
    (shop true).Gives groupsShape "/apis" (.object [("groups", .array [widgetGroup])]) :=
  ⟨_, _, rfl, rfl, by decide +kernel⟩

theorem shop_gives_widgets :
    (shop true).Gives resourcesShape "/apis/shop/v1" widgetList :=
  ⟨_, _, rfl, rfl, by decide +kernel⟩

theorem shop_serves_widgets : (shop true).Serves widgets := by
  refine ⟨"shop", ⟨.ofEntry widgetGroup, .group shop_gives_groups ?_, rfl⟩, ?_⟩
  · exact List.mem_singleton.2 rfl
  · intro profile describes named
    cases describes with
    | group given member =>
      obtain rfl := shop_gives_groups.unique given
      rw [List.mem_singleton.1 member]
      refine ⟨"v1", "shop/v1", widgetList, ⟨?_, nofun, ?_⟩, shop_gives_widgets, ?_⟩
      · exact List.mem_singleton.2 rfl
      · exact fun _ other member => .inl (List.mem_singleton.1 member)
      · decide
    | core given =>
      have nameless : "" = "shop" := named
      exact absurd nameless (by decide)

theorem discovery_shop (installed : Bool) : Discovery.run.run (shop installed).world () =
    some (.ok (if installed then [widgets] else []), ()) := by
  apply Program.run_eq_ok
  cases installed <;> decide +kernel

theorem discovered_shop (installed : Bool) : (Client.discovered {}).run (shop installed).world () =
    some ((.ok (if installed then [widgets] else []),
      ⟨some (if installed then [widgets] else [])⟩), ()) := by
  rw [Client.discovered]
  simp only [Program.run_bind, discovery_shop, Option.bind_some, Program.run_pure]

theorem listOf_widgets (kind : String) :
    (Client.listOf kind "shop" widgets).run (shop true).world () = some (.ok [], ()) := by
  have made : Client.requestOf .get (widgets.path "shop" ++ "?") none =
      .ok ⟨.get, "/apis/shop/v1/namespaces/shop/widgets?", none⟩ := rfl
  rw [Client.listOf, made, exchange]
  rfl

theorem listing_installed : (listing (shop true) "widget" (.ok [])).Leads {} ⟨some [widgets]⟩ := by
  have known : Catalog.resolve [widgets] "widget" = some widgets := by decide
  refine .answered ?_
  change (Client.withKind {} "widget" (Client.listOf "widget" "shop")).run (shop true).world () = _
  rw [Client.run_withKind, discovered_shop]
  simp only [if_true, Option.bind_some, known, Option.elim_some, listOf_widgets, Option.map_some]
  rfl

theorem listing_known :
    (listing (shop true) "Widget.shop" (.ok [])).Leads ⟨some [widgets]⟩ ⟨some [widgets]⟩ := by
  have known : Catalog.resolve [widgets] "Widget.shop" = some widgets := by decide
  refine .answered ?_
  change (Client.withKind ⟨some [widgets]⟩ "Widget.shop" (Client.listOf "Widget.shop" "shop")).run
    (shop true).world () = _
  rw [Client.run_withKind, Client.discovered]
  simp only [Program.run_pure, Option.bind_some, known, Option.elim_some, listOf_widgets,
    Option.map_some]
  rfl

/-- A discovery fails, the next one finds widgets, and the last call finds them in the catalog. -/
theorem served_widgets_not_rejected :
    let failure : FetchError := .transient "api discovery: ServiceError: connection refused"
    let history := [listing unreachable "widget" (.error failure),
      listing (shop true) "widget" (.ok []), listing (shop true) "Widget.shop" (.ok [])]
    Calls {} history ⟨some [widgets]⟩ ∧ (shop true).Serves widgets ∧ widgets.IsCalled "widget" ∧
      widgets.IsCalled "Widget.shop" ∧
      ∀ turn ∈ history, ¬ turn.Rejects "widget" ∧ ¬ turn.Rejects "Widget.shop" := by
  intro failure history
  have calls : Calls {} history ⟨some [widgets]⟩ :=
    .cons listing_unreachable (.cons listing_installed (.cons listing_known .nil))
  refine ⟨calls, shop_serves_widgets, widgets_isCalled, widgets_isCalled_grouped, ?_⟩
  intro turn member
  rcases served_kind_not_rejected calls with ⟨-, silent⟩ | ⟨early, source, late, catalog, split, -, -, -,
    ran, before, known⟩
  · exact ⟨silent turn member _, silent turn member _⟩
  · have among : source ∈ history := by simp [split]
    have server : source.server = shop true := by
      rcases List.mem_cons.1 among with rfl | among
      · cases discovery_unreachable.symm.trans ran
      · rcases List.mem_cons.1 among with rfl | among
        · rfl
        · rw [List.mem_singleton.1 among]
          rfl
    rw [split, List.mem_append] at member
    rcases member with early | later
    · exact ⟨before turn early _, before turn early _⟩
    · rw [server] at known
      exact ⟨known turn later _ widgets shop_serves_widgets widgets_isCalled,
        known turn later _ widgets shop_serves_widgets widgets_isCalled_grouped⟩

/-- Widgets that come to be served after the first call stay unknown. -/
theorem later_widgets_rejected :
    let unknown : Except FetchError (List Reading) := .error (Client.unknownKind "widget")
    Calls {} [listing (shop false) "widget" unknown, listing (shop true) "widget" unknown] ⟨some []⟩ ∧
      (shop true).Serves widgets ∧ widgets.IsCalled "widget" ∧
      (listing (shop true) "widget" unknown).Rejects "widget" := by
  intro unknown
  have first : (listing (shop false) "widget" unknown).Leads {} ⟨some []⟩ := by
    refine .answered ?_
    change (Client.withKind {} "widget" (Client.listOf "widget" "shop")).run (shop false).world () = _
    rw [Client.run_withKind, discovered_shop]
    rfl
  have second : (listing (shop true) "widget" unknown).Leads ⟨some []⟩ ⟨some []⟩ := .answered rfl
  exact ⟨.cons first (.cons second .nil), shop_serves_widgets, widgets_isCalled, rfl, _, rfl, rfl⟩

end Shop

end Api

end Readiness
