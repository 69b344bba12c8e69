import Readiness.Proofs.Api.KnownKinds
import Readiness.Proofs.Program.Waits

/-! When a client asks what is served. It does so in each call that looks up a kind, until it has been told
once; a discovery that fails leaves no trace in what comes later. -/
namespace Readiness.Api

abbrev Exchange := Program.Exchange fun _ : Request => Reply

namespace Discovery

def start : Request := ⟨.get, "/apis", none⟩

theorem run_begins : ∃ next, Discovery.run = .ask start next := by
  have made : Request.make .get "/apis" none = .ok start := rfl
  rw [Discovery.run, load, made]
  exact ⟨_, rfl⟩

end Discovery

theorem uses_exchange {shape : Json.Shape} {request : Except Failure Request}
    {allowed : Request → Prop} (made : ∀ sent, request = .ok sent → allowed sent) :
    (exchange shape request).Uses allowed := by
  cases request with
  | error => trivial
  | ok sent => exact (Program.uses_perform (made sent rfl)).bind fun _ => trivial

namespace Client

theorem ne_start_of_lead {lead rest : String} {method : Method} {body : Option Json.Value}
    {sent : Request} (clean : '#' ∉ lead.toList) (apart : ¬ lead.toList <+: "/apis".toList)
    (made : requestOf method (lead ++ rest) body = .ok sent) : sent ≠ Discovery.start := by
  have path : sent.path.toList = lead.toList ++ rest.toList.takeWhile (· != '#') := by
    unfold requestOf Request.make at made
    split at made
    · cases made
    · split at made
      · obtain rfl := Except.ok.inj made
        have whole : ∀ c ∈ lead.toList, (c != '#') = true := by
          intro c member
          exact bne_iff_ne.2 fun same => clean (same ▸ member)
        rw [sentPart, String.toList_ofList, String.toList_append,
          List.takeWhile_append_of_pos whole]
      · cases made
  rintro rfl
  exact apart ⟨_, path.symm⟩

theorem named_ne_start {lead rest name : String} {sent : Request} (clean : '#' ∉ lead.toList)
    (apart : ¬ lead.toList <+: "/apis".toList) (made : named (lead ++ rest) name = .ok sent) :
    sent ≠ Discovery.start := by
  unfold named at made
  split at made
  · cases made
  · rw [String.append_assoc, String.append_assoc] at made
    exact ne_start_of_lead clean apart made

theorem exists_lead (resource : Resource) (space : String) :
    ∃ lead rest, resource.path space = lead ++ rest ∧ '#' ∉ lead.toList ∧
      ¬ lead.toList <+: "/apis".toList := by
  unfold Resource.path
  split
  · exact ⟨"/api/", _, by simp only [String.append_assoc]; rfl, by decide, by decide⟩
  · exact ⟨"/apis/", _, by simp only [String.append_assoc]; rfl, by decide, by decide⟩

theorem uses_fetchOf (q : Query) (resource : Resource) :
    (fetchOf q resource).Uses (· ≠ Discovery.start) := by
  refine (uses_exchange fun sent made => ?_).bind fun document => ?_
  · obtain ⟨lead, rest, path, clean, apart⟩ := exists_lead resource q.space
    exact named_ne_start clean apart (path ▸ made)
  · cases document <;> trivial

theorem uses_listOf (kind space : String) (resource : Resource) :
    (listOf kind space resource).Uses (· ≠ Discovery.start) := by
  refine (uses_exchange fun sent made => ?_).bind fun document => ?_
  · obtain ⟨lead, rest, path, clean, apart⟩ := exists_lead resource space
    rw [path, String.append_assoc] at made
    exact ne_start_of_lead clean apart made
  · cases document <;> trivial

theorem uses_hasNamespace (name : String) : (hasNamespace name).Uses (· ≠ Discovery.start) := by
  refine (uses_exchange fun sent made => ?_).bind fun document => ?_
  · rw [← String.append_empty (s := namespaces)] at made
    exact named_ne_start (by decide) (by decide) made
  · split
    · trivial
    · split <;> trivial
    · trivial

theorem uses_createNamespace (name : String) :
    (createNamespace name).Uses (· ≠ Discovery.start) := by
  refine (uses_exchange fun sent made => ?_).bind fun document => ?_
  · exact ne_start_of_lead (by decide) (by decide) made
  · split
    · trivial
    · split <;> trivial
    · trivial

theorem uses_ping : ping.Uses (· ≠ Discovery.start) := by
  refine (uses_exchange fun sent made => ?_).bind fun document => ?_
  · rw [← String.append_empty (s := "/version")] at made
    exact ne_start_of_lead (by decide) (by decide) made
  · cases document <;> trivial

section Discovered

variable {before after : Client} {asked : List Exchange} {pending : Request}

theorem yields_discovered {found : Except FetchError Catalog}
    (yields : (discovered {}).Yields asked (found, after)) :
    (∃ catalog, found = .ok catalog ∧ after = ⟨some catalog⟩ ∧
      Discovery.run.Yields asked (.ok catalog)) ∨
    ∃ failure, found = .error (failure.asFetch "api discovery") ∧ after = {} ∧
      Discovery.run.Yields asked (.error failure) := by
  obtain ⟨result, first, rest, rfl, ended, told⟩ := Program.yields_bind.1 yields
  cases result with
  | ok catalog =>
    obtain ⟨rfl, same⟩ := Program.yields_done.1 told
    obtain ⟨rfl, rfl⟩ := Prod.mk.inj same
    exact .inl ⟨catalog, rfl, rfl, by rwa [List.append_nil]⟩
  | error failure =>
    obtain ⟨rfl, same⟩ := Program.yields_done.1 told
    obtain ⟨rfl, rfl⟩ := Prod.mk.inj same
    exact .inr ⟨failure, rfl, rfl, by rwa [List.append_nil]⟩

theorem waits_discovered (waits : before.discovered.Waits asked pending) :
    before = {} ∧ Discovery.run.Waits asked pending := by
  obtain ⟨_ | catalog⟩ := before
  · refine ⟨rfl, ?_⟩
    rcases Program.waits_bind.1 waits with within | ⟨result, first, rest, -, -, after⟩
    · exact within
    · cases result <;> exact absurd after Program.not_waits_done
  · exact absurd waits Program.not_waits_done

theorem yields_withKind {α : Type} {kind : String} {use : Resource → Session (Except FetchError α)}
    {answer : Except FetchError α} (yields : (before.withKind kind use).Yields asked (answer, after)) :
    ∃ found first rest, asked = first ++ rest ∧ before.discovered.Yields first (found, after) ∧
      ∀ e, found = .error e → answer = .error e ∧ rest = [] := by
  obtain ⟨⟨found, known⟩, first, rest, rfl, looked, ended⟩ := Program.yields_bind.1 yields
  refine ⟨found, first, rest, rfl, ?_⟩
  cases found with
  | error e =>
    obtain ⟨rfl, same⟩ := Program.yields_done.1 ended
    obtain ⟨rfl, rfl⟩ := Prod.mk.inj same
    exact ⟨looked, fun _ same => ⟨congrArg _ (Except.error.inj same), rfl⟩⟩
  | ok catalog =>
    refine ⟨?_, nofun⟩
    dsimp only at ended
    split at ended
    · obtain ⟨-, same⟩ := Program.yields_done.1 ended
      obtain ⟨-, rfl⟩ := Prod.mk.inj same
      exact looked
    · obtain ⟨given, -, same⟩ := Program.yields_map.1 ended
      obtain ⟨-, rfl⟩ := Prod.mk.inj same
      exact looked

theorem uses_withKind {α : Type} {kind : String} {use : Resource → Session (Except FetchError α)}
    {catalog : Catalog} (uses : ∀ resource, (use resource).Uses (· ≠ Discovery.start)) :
    (withKind ⟨some catalog⟩ kind use).Uses (· ≠ Discovery.start) := by
  have silent : (discovered ⟨some catalog⟩).Uses (· ≠ Discovery.start) := trivial
  refine silent.bind fun found => ?_
  rcases found with ⟨_ | catalog, client⟩
  · trivial
  · dsimp only
    split
    · trivial
    · exact (uses _).bind fun _ => trivial

theorem uses_answer {client : Client} {call : Cluster.Call}
    (settled : call.kind? = none ∨ client.catalog ≠ none) :
    (client.answer call).Uses (· ≠ Discovery.start) := by
  have known (looks : call.kind? ≠ none) : ∃ catalog, client = ⟨some catalog⟩ := by
    obtain ⟨_ | catalog⟩ := client
    · exact absurd rfl (settled.resolve_left looks)
    · exact ⟨catalog, rfl⟩
  cases call with
  | fetch q =>
    obtain ⟨catalog, rfl⟩ := known nofun
    exact uses_withKind (uses_fetchOf q)
  | list kind space =>
    obtain ⟨catalog, rfl⟩ := known nofun
    exact uses_withKind (uses_listOf kind space)
  | hasNamespace name => exact (uses_hasNamespace name).bind fun _ => trivial
  | createNamespace name => exact (uses_createNamespace name).bind fun _ => trivial
  | ping => exact uses_ping.bind fun _ => trivial

theorem yields_answer {call : Cluster.Call} {answer : call.Answer} (looks : call.kind? ≠ none)
    (yields : (before.answer call).Yields asked (answer, after)) :
    ∃ found first rest, asked = first ++ rest ∧ before.discovered.Yields first (found, after) ∧
      ∀ e, found = .error e → call.failure? answer = some e ∧ rest = [] := by
  cases call with
  | fetch | list =>
    obtain ⟨found, first, rest, split, looked, failed⟩ := yields_withKind yields
    refine ⟨found, first, rest, split, looked, fun e same => ?_⟩
    obtain ⟨rfl, none⟩ := failed e same
    exact ⟨rfl, none⟩
  | hasNamespace | createNamespace | ping => exact absurd rfl looks

theorem after_eq_before {call : Cluster.Call} {answer : call.Answer}
    (settled : call.kind? = none ∨ before.catalog ≠ none)
    (yields : (before.answer call).Yields asked (answer, after)) : after = before := by
  have aside {α : Type} {program : Session α} {answer : α}
      (ran : (do return (← program, before)).Yields asked (answer, after)) : after = before := by
    obtain ⟨given, -, same⟩ := Program.yields_map.1 ran
    exact (Prod.mk.inj same).2
  by_cases looks : call.kind? = none
  · cases call with
    | fetch | list => cases looks
    | hasNamespace name => exact aside yields
    | createNamespace name => exact aside yields
    | ping => exact aside yields
  · obtain ⟨found, first, rest, -, looked, -⟩ := yields_answer looks yields
    obtain ⟨_ | catalog⟩ := before
    · exact absurd rfl (settled.resolve_left looks)
    · exact (Prod.mk.inj (Program.yields_done.1 looked).2).2

end Discovered

end Client

inductive Ending (call : Cluster.Call) where
  | answered (answer : call.Answer)
  /-- It is given up while this request is not answered. -/
  | left (pending : Request)

/-- A call of a client, and what was asked of the server meanwhile with its answers. -/
structure Talk where
  call : Cluster.Call
  asked : List Exchange
  ending : Ending call

namespace Talk

def sent (talk : Talk) : List Request :=
  talk.asked.map (·.request) ++
    match talk.ending with
    | .answered _ => []
    | .left pending => [pending]

/-- A discovery has come to this end in the call. -/
def Discovers (talk : Talk) (result : Except Failure Catalog) : Prop :=
  ∃ first rest, talk.asked = first ++ rest ∧ Discovery.run.Yields first result

/-- A discovery is what the call begins with, whether or not it comes to an end. -/
def Begins (talk : Talk) : Prop :=
  (∃ result, talk.Discovers result) ∨
    ∃ pending, talk.ending = .left pending ∧ Discovery.run.Waits talk.asked pending

/-- What a call makes of a client. A discovery that has succeeded before the call is given up is kept. -/
inductive Leads : Talk → Client → Client → Prop
  | answered {call : Cluster.Call} {asked : List Exchange} {answer : call.Answer}
    {before after : Client} (yields : (before.answer call).Yields asked (answer, after)) :
    Leads ⟨call, asked, .answered answer⟩ before after
  | leftEarly {call : Cluster.Call} {asked : List Exchange} {pending : Request} {client : Client}
    (waits : (client.answer call).Waits asked pending)
    (undiscovered : call.kind? = none ∨ client.discovered.Waits asked pending) :
    Leads ⟨call, asked, .left pending⟩ client client
  | leftLate {call : Cluster.Call} {first rest : List Exchange} {pending : Request}
    {catalog : Catalog} {before after : Client} (looks : call.kind? ≠ none)
    (waits : (before.answer call).Waits (first ++ rest) pending)
    (discovered : before.discovered.Yields first (.ok catalog, after)) :
    Leads ⟨call, first ++ rest, .left pending⟩ before after

/-- The calls that there are: without a kind, with a catalog at hand, or with a discovery that succeeds,
fails or does not come to its end. -/
inductive Goes : Talk → Client → Client → Prop
  | aside {talk : Talk} {client : Client} (kindless : talk.call.kind? = none)
    (silent : Discovery.start ∉ talk.sent) : Goes talk client client
  | known {talk : Talk} {catalog : Catalog} (looks : talk.call.kind? ≠ none)
    (silent : Discovery.start ∉ talk.sent) : Goes talk ⟨some catalog⟩ ⟨some catalog⟩
  | found {talk : Talk} {catalog : Catalog} (looks : talk.call.kind? ≠ none)
    (discovers : talk.Discovers (.ok catalog)) : Goes talk {} ⟨some catalog⟩
  | failed {talk : Talk} {failure : Failure} {answer : talk.call.Answer}
    (looks : talk.call.kind? ≠ none) (discovery : Discovery.run.Yields talk.asked (.error failure))
    (ended : talk.ending = .answered answer)
    (told : talk.call.failure? answer = some (failure.asFetch "api discovery")) : Goes talk {} {}
  | looking {talk : Talk} {pending : Request} (looks : talk.call.kind? ≠ none)
    (ended : talk.ending = .left pending) (waits : Discovery.run.Waits talk.asked pending) :
    Goes talk {} {}

variable {talk : Talk} {before after : Client} {result : Except Failure Catalog}

theorem Leads.silent (leads : talk.Leads before after)
    (settled : talk.call.kind? = none ∨ before.catalog ≠ none) : Discovery.start ∉ talk.sent := by
  have uses := Client.uses_answer settled
  rw [sent, List.mem_append, List.mem_map]
  cases leads with
  | answered yields =>
    rintro (⟨exchange, member, same⟩ | none)
    · exact uses.of_yields yields exchange member same
    · cases none
  | leftEarly waits | leftLate _ waits =>
    obtain ⟨past, last⟩ := uses.of_waits waits
    rintro (⟨exchange, member, same⟩ | here)
    · exact past exchange member same
    · exact last (List.mem_singleton.1 here).symm

theorem Leads.goes (leads : talk.Leads before after) : talk.Goes before after := by
  by_cases looks : talk.call.kind? = none
  · have silent := leads.silent (.inl looks)
    cases leads with
    | answered yields =>
      obtain rfl := Client.after_eq_before (.inl looks) yields
      exact .aside looks silent
    | leftEarly => exact .aside looks silent
    | leftLate looks' => exact absurd looks looks'
  · obtain ⟨_ | catalog⟩ := before
    · cases leads with
      | answered yields =>
        obtain ⟨found, first, rest, rfl, looked, failed⟩ := Client.yields_answer looks yields
        rcases Client.yields_discovered looked with ⟨catalog, rfl, rfl, ran⟩ | ⟨failure, rfl, rfl, ran⟩
        · exact .found looks ⟨first, rest, rfl, ran⟩
        · obtain ⟨told, rfl⟩ := failed _ rfl
          exact .failed looks (by rwa [List.append_nil]) rfl told
      | leftEarly _ undiscovered =>
        obtain ⟨-, waits⟩ := Client.waits_discovered (undiscovered.resolve_left looks)
        exact .looking looks rfl waits
      | leftLate _ _ discovered =>
        rcases Client.yields_discovered discovered with ⟨catalog, same, rfl, ran⟩ | ⟨failure, same, -, -⟩
        · exact .found looks ⟨_, _, rfl, Except.ok.inj same ▸ ran⟩
        · cases same
    · have kept : (⟨some catalog⟩ : Client).catalog ≠ none := nofun
      have silent := leads.silent (.inr kept)
      cases leads with
      | answered yields =>
        obtain rfl := Client.after_eq_before (.inr kept) yields
        exact .known looks silent
      | leftEarly => exact .known looks silent
      | leftLate _ _ discovered =>
        obtain ⟨-, same⟩ := Program.yields_done.1 discovered
        obtain ⟨-, rfl⟩ := Prod.mk.inj same
        exact .known looks silent

theorem Discovers.start_sent (discovers : talk.Discovers result) : Discovery.start ∈ talk.sent := by
  obtain ⟨first, rest, split, ran⟩ := discovers
  obtain ⟨next, begins⟩ := Discovery.run_begins
  rw [begins] at ran
  obtain ⟨answer, more, rfl, -⟩ := Program.yields_ask.1 ran
  rw [sent, split]
  exact List.mem_append_left _ List.mem_cons_self

theorem Discovers.unique {other : Except Failure Catalog} (discovers : talk.Discovers result)
    (also : talk.Discovers other) : result = other := by
  obtain ⟨first, rest, split, ran⟩ := discovers
  obtain ⟨second, rest', split', ran'⟩ := also
  exact (ran.unique ran' (split.symm.trans split')).2

theorem discovers_of_all (ran : Discovery.run.Yields talk.asked result) : talk.Discovers result :=
  ⟨talk.asked, [], (List.append_nil _).symm, ran⟩

theorem Discovers.not_waits {pending : Request} (discovers : talk.Discovers result) :
    ¬ Discovery.run.Waits talk.asked pending := by
  obtain ⟨first, rest, split, ran⟩ := discovers
  rw [split]
  exact ran.not_waits

theorem Goes.catalog_eq_none_iff (goes : talk.Goes before after) : after.catalog = none ↔
    before.catalog = none ∧ ∀ catalog, ¬ talk.Discovers (.ok catalog) := by
  cases goes with
  | aside _ silent =>
    exact (and_iff_left fun catalog discovers => silent discovers.start_sent).symm
  | known => simp
  | found _ discovers => exact ⟨nofun, fun none => absurd discovers (none.2 _)⟩
  | failed _ discovery =>
    refine (and_iff_left fun catalog discovers => ?_).symm
    cases discovers.unique (discovers_of_all discovery)
  | looking _ _ waits =>
    exact (and_iff_left fun catalog discovers => discovers.not_waits waits).symm

end Talk

inductive Talks : Client → List Talk → Client → Prop
  | nil {client : Client} : Talks client [] client
  | cons {before middle after : Client} {talk : Talk} {talks : List Talk}
    (leads : talk.Leads before middle) (rest : Talks middle talks after) :
    Talks before (talk :: talks) after

namespace Talks

variable {talks early late : List Talk} {before after : Client}

theorem append_iff : Talks before (early ++ late) after ↔
    ∃ middle, Talks before early middle ∧ Talks middle late after := by
  induction early generalizing before with
  | nil =>
    constructor
    · exact fun talks => ⟨before, .nil, talks⟩
    · rintro ⟨_, ⟨⟩, talks⟩
      exact talks
  | cons talk early ih =>
    constructor
    · rintro (_ | ⟨leads, rest⟩)
      obtain ⟨middle, first, second⟩ := ih.1 rest
      exact ⟨middle, .cons leads first, second⟩
    · rintro ⟨middle, _ | ⟨leads, first⟩, second⟩
      exact .cons leads (ih.2 ⟨middle, first, second⟩)

/-- A client comes to have a catalog in a call that finds one, and in no other. -/
theorem catalog_eq_none_iff (all : Talks before talks after) : after.catalog = none ↔
    before.catalog = none ∧ ∀ talk ∈ talks, ∀ catalog, ¬ talk.Discovers (.ok catalog) := by
  induction all with
  | nil => simp
  | cons leads rest ih =>
    rw [ih, leads.goes.catalog_eq_none_iff, List.forall_mem_cons, and_assoc]

end Talks

/-- A call that looks up a kind begins with a discovery as long as none has succeeded in an earlier call,
and asks for nothing of the kind once one has; no other call does. Where a discovery fails, the call
does no more than tell of the failure; the client stays as it was, and all goes on as it would have gone
without this call. -/
theorem discovery_kept {talk : Talk} {early late : List Talk} {last : Client}
    (talks : Talks {} (early ++ talk :: late) last) :
    (talk.call.kind? = none → Discovery.start ∉ talk.sent) ∧
    (talk.call.kind? ≠ none →
      (∀ earlier ∈ early, ∀ catalog, ¬ earlier.Discovers (.ok catalog)) → talk.Begins) ∧
    (∀ earlier ∈ early, ∀ catalog, earlier.Discovers (.ok catalog) →
      Discovery.start ∉ talk.sent) ∧
    ∀ failure, talk.Discovers (.error failure) →
      Discovery.run.Yields talk.asked (.error failure) ∧
      (∃ answer, talk.ending = .answered answer ∧
        talk.call.failure? answer = some (failure.asFetch "api discovery")) ∧
      (∀ catalog, ¬ talk.Discovers (.ok catalog)) ∧
      (∃ client, Talks {} early client ∧ talk.Leads client client ∧ Talks client late last) ∧
      Talks {} (early ++ late) last := by
  obtain ⟨before, started, _ | ⟨leads, rest⟩⟩ := Talks.append_iff.1 talks
  have unfound := started.catalog_eq_none_iff
  refine ⟨fun kindless => leads.silent (.inl kindless), fun looks none => ?begins,
    fun earlier member catalog found => leads.silent (.inr fun none => ?silent),
    fun failure failed => ?failed⟩
  case begins =>
    have fresh := unfound.2 ⟨rfl, none⟩
    cases leads.goes with
    | aside kindless => exact absurd kindless looks
    | known => cases fresh
    | found _ discovers => exact .inl ⟨_, discovers⟩
    | failed _ ran => exact .inl ⟨_, Talk.discovers_of_all ran⟩
    | looking _ ended waits => exact .inr ⟨_, ended, waits⟩
  case silent => exact (unfound.1 none).2 earlier member catalog found
  case failed =>
    have unkept (catalog) : ¬ talk.Discovers (.ok catalog) := fun found => nomatch failed.unique found
    cases leads.goes with
    | aside _ silent | known _ silent => exact absurd failed.start_sent silent
    | found _ discovers => exact absurd discovers (unkept _)
    | failed _ ran ended told =>
      cases failed.unique (Talk.discovers_of_all ran)
      exact ⟨ran, ⟨_, ended, told⟩, unkept, ⟨_, started, leads, rest⟩,
        Talks.append_iff.2 ⟨_, started, rest⟩⟩
    | looking _ _ waits => exact absurd waits failed.not_waits

section Shop

def refused : Talk where
  call := .list "widget" "shop"
  asked := [⟨Discovery.start, .broken "connection refused"⟩]
  ending := .answered (.error (.transient "api discovery: ServiceError: connection refused"))

theorem refused_discovery :
    Discovery.run.Yields refused.asked (.error (.service "connection refused")) := by
  have loaded : (Discovery.load Discovery.groupsShape "/apis").Yields refused.asked
      (.error (.service "connection refused")) := .ask .done
  exact Program.yields_bind.2 ⟨_, _, [], rfl, loaded, .done⟩

theorem refused_leads : refused.Leads {} {} := by
  have looked : (Client.discovered {}).Yields refused.asked
      (.error (.transient "api discovery: ServiceError: connection refused"), {}) :=
    Program.yields_bind.2 ⟨_, _, [], rfl, refused_discovery, .done⟩
  exact .answered (Program.yields_bind.2 ⟨_, _, [], rfl, looked, .done⟩)

def givenUp : Talk where
  call := .list "widget" "shop"
  asked := []
  ending := .left ⟨.get, "/apis/shop/v1/namespaces/shop/widgets?", none⟩

theorem givenUp_leads : givenUp.Leads ⟨some [widgets]⟩ ⟨some [widgets]⟩ := by
  have resolved : Catalog.resolve [widgets] "widget" = some widgets := by decide
  have waits : (Client.answer ⟨some [widgets]⟩ givenUp.call).Waits ([] ++ [])
      ⟨.get, "/apis/shop/v1/namespaces/shop/widgets?", none⟩ := by
    refine Program.waits_bind.2 (.inr ⟨_, [], [], rfl, .done, ?_⟩)
    simp only [resolved]
    exact .here
  have looks : givenUp.call.kind? ≠ none := nofun
  exact .leftLate looks waits .done

/-- After a failed discovery the next look for widgets begins with another; the one after that asks for
widgets at once. The first look could as well not have been. -/
theorem discovery_kept_widgets : ∃ found : Talk,
    Talks {} [refused, found, givenUp] ⟨some [widgets]⟩ ∧ found.Discovers (.ok [widgets]) ∧
      found.Begins ∧ Discovery.start ∉ givenUp.sent ∧ Talks {} [found, givenUp] ⟨some [widgets]⟩ := by
  rcases listing_installed with ⟨ran⟩ | _ | _
  · obtain ⟨asked, yields⟩ := Program.exists_yields ran
    let found : Talk := ⟨.list "widget" "shop", asked, .answered (.ok [])⟩
    have leads : found.Leads {} ⟨some [widgets]⟩ := .answered yields
    have finds : found.Discovers (.ok [widgets]) := by
      cases leads.goes with
      | found _ discovers => exact discovers
    have talks : Talks {} [refused, found, givenUp] ⟨some [widgets]⟩ :=
      .cons refused_leads (.cons leads (.cons givenUp_leads .nil))
    have first := @discovery_kept refused [] [found, givenUp] _ talks
    have second := @discovery_kept found [refused] [givenUp] _ talks
    have third := @discovery_kept givenUp [refused, found] [] _ talks
    obtain ⟨-, -, unfound, -, without⟩ := first.2.2.2 _ (Talk.discovers_of_all refused_discovery)
    refine ⟨found, talks, finds, ?_, ?_, without⟩
    · exact second.2.1 nofun fun earlier member => List.mem_singleton.1 member ▸ unfound
    · exact third.2.2.1 found (by simp) _ finds

end Shop

end Readiness.Api
