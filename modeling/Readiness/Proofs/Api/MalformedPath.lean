import Mathlib.Data.List.Basic
import Readiness.Proofs.Api.Client
import Readiness.Proofs.Poll.Failing
import Readiness.Rehearsal.Server

/-! Queries for what stands at a path that means nothing. A client reads the path only when it holds the
object, so it is the reply of the server that decides: the query is given up with the first reply that
brings the object, or that refuses it for good, and until then it is asked again and again. -/
namespace Readiness

def Query.IsMalformed (q : Query) : Prop :=
  ∃ path e, q.path = some path ∧ Json.Path.ofText path = .error e

theorem Query.IsMalformed.reading_eq {q : Query} (malformed : q.IsMalformed) (document : Json.Value) :
    ∃ detail, Api.Document.reading document q.path = .error (.invalid detail) := by
  obtain ⟨path, e, asked, unread⟩ := malformed
  refine ⟨e.message, ?_⟩
  rw [asked, Api.Document.reading, Cluster.stateAt, unread]
  rfl

namespace Api

def Status.finalCodes : List Nat := [400, 401, 403, 422]

theorem Failure.ofStatus_isFatal_iff (status : Status) (message : String) :
    (ofStatus status message).isFatal = true ↔ status.code ∈ Status.finalCodes := by
  unfold ofStatus
  split <;> simp_all [FetchError.isFatal, Status.finalCodes]

/-- The reply to a read brings the object, or refuses it for good. -/
inductive Reply.Settles (reply : Reply) : Prop
  | found {object : Json.Value} (read : reply.read Document.object = .ok object)
  | refused {status : Status} (read : reply.read Document.object = .error (.refused status))
    (final : status.code ∈ Status.finalCodes)

theorem Reply.isFatal_iff {reply : Reply} {shape : Json.Shape} {failure : Failure}
    (read : reply.read shape = .error failure) (context : String) :
    (failure.asFetch context).isFatal = true ↔
      ∃ status, failure = .refused status ∧ status.code ∈ Status.finalCodes := by
  unfold Reply.read at read
  split at read
  · obtain rfl := Except.error.inj read
    simp [Failure.asFetch, FetchError.isFatal]
  · split at read
    · obtain rfl := Except.error.inj read
      simp [Failure.asFetch, Failure.ofStatus_isFatal_iff]
    · split at read
      · cases read
      · obtain rfl := Except.error.inj read
        simp [Failure.asFetch, FetchError.isFatal]

namespace Client

section Asking

variable {σ : Type} {server : Request → σ → Option (Reply × σ)} {client : Client} {q : Query}
variable {before after : σ} {reply? : Option Reply}

/-- The client finds the kind of the query in its catalog and asks for the object. It is given a reply,
unless there is no request for an object of this name. -/
inductive Asks (server : Request → σ → Option (Reply × σ)) (client : Client) (q : Query) (before : σ) :
    Option Reply → σ → Prop
  | replied {catalog : Catalog} {known : Client} {middle after : σ} {resource : Resource}
    {request : Request} {reply : Reply}
    (discovered : client.discovered.run server before = some ((.ok catalog, known), middle))
    (served : catalog.resolve q.kind = some resource)
    (made : named (resource.path q.space) q.name = .ok request)
    (answered : server request middle = some (reply, after)) :
    Asks server client q before (some reply) after
  | unsent {catalog : Catalog} {known : Client} {middle : σ} {resource : Resource} {failure : Failure}
    (discovered : client.discovered.run server before = some ((.ok catalog, known), middle))
    (served : catalog.resolve q.kind = some resource)
    (unmade : named (resource.path q.space) q.name = .error failure) :
    Asks server client q before none middle

theorem transient_of_unnamed {path name : String} {failure : Failure}
    (unmade : named path name = .error failure) (context : String) :
    (failure.asFetch context).isFatal = false := by
  unfold named at unmade
  split at unmade
  · obtain rfl := Except.error.inj unmade
    rfl
  · rw [requestOf] at unmade
    cases made : Request.make .get (path ++ "/" ++ name) none with
    | ok request => simp [made, Except.mapError] at unmade
    | error detail =>
      rw [made] at unmade
      obtain rfl := Except.error.inj unmade
      rfl

/-- A path that means nothing makes every read fail, and for good if and only if the reply settles it. -/
theorem taken_of_malformed (malformed : q.IsMalformed) (reply : Reply) :
    ∃ e, taken q reply = .error e ∧ (e.isFatal = true ↔ reply.Settles) := by
  unfold taken
  cases read : reply.read Document.object with
  | ok object =>
    obtain ⟨detail, unread⟩ := malformed.reading_eq object
    exact ⟨.invalid detail, unread, ⟨fun _ => .found read, fun _ => rfl⟩⟩
  | error failure =>
    refine ⟨failure.asFetch q.text, rfl, (Reply.isFatal_iff read q.text).trans ⟨?_, fun settles => ?_⟩⟩
    · rintro ⟨status, rfl, final⟩
      exact .refused read final
    · cases settles with
      | found found => cases read.symm.trans found
      | refused refused final => exact ⟨_, Except.error.inj (read.symm.trans refused), final⟩

theorem Asks.fails (asks : Asks server client q before reply? after) (malformed : q.IsMalformed) :
    ∃ e known, (client.answer (.fetch q)).run server before = some ((.error e, known), after) ∧
      (e.isFatal = true ↔ ∃ reply ∈ reply?, reply.Settles) := by
  cases asks with
  | @unsent catalog known _ resource failure discovered served unmade =>
    refine ⟨failure.asFetch q.text, known, ?_, by simp [transient_of_unnamed unmade]⟩
    rw [run_fetch_of_served discovered served, run_fetchOf, unmade]
    rfl
  | @replied catalog known middle _ resource request reply discovered served made answered =>
    obtain ⟨e, failed, settled⟩ := taken_of_malformed malformed reply
    refine ⟨e, known, ?_, by simpa using settled⟩
    rw [run_fetch_of_replied discovered served made answered, failed]
    rfl

end Asking

end Client

end Api

namespace Poll.Timeline

variable {σ : Type} {timeline : Timeline σ} {q : Query}

def IsAsked (timeline : Timeline σ) (q : Query) (reply? : Instant → σ → Option Api.Reply) : Prop :=
  ∀ now source, ∃ (τ : Type) (server : Api.Request → τ → Option (Api.Reply × τ))
    (client known : Api.Client) (before after : τ),
    Api.Client.Asks server client q before (reply? now source) after ∧
    (client.answer (.fetch q)).run server before =
      some (((timeline.answer q now source).2.1, known), after)

section Malformed

variable {reply? : Instant → σ → Option Api.Reply}

theorem IsAsked.answer (isAsked : timeline.IsAsked q reply?) (malformed : q.IsMalformed) (now : Instant)
    (source : σ) : ∃ e, (timeline.answer q now source).2.1 = .error e ∧
      (e.isFatal = true ↔ ∃ reply ∈ reply? now source, reply.Settles) := by
  obtain ⟨τ, server, client, known, before, after, asks, ran⟩ := isAsked now source
  obtain ⟨e, known', failed, settled⟩ := asks.fails malformed
  refine ⟨e, ?_, settled⟩
  rw [ran] at failed
  exact congrArg (·.1.1) (Option.some.inj failed)

theorem IsAsked.fails (isAsked : timeline.IsAsked q reply?) (malformed : q.IsMalformed) :
    timeline.Fails q := by
  intro now source
  obtain ⟨e, failed, -⟩ := isAsked.answer malformed now source
  exact ⟨e, failed⟩

theorem IsAsked.failsForGood (isAsked : timeline.IsAsked q reply?) (malformed : q.IsMalformed)
    (settled : ∀ now source, ∃ reply ∈ reply? now source, reply.Settles) :
    timeline.FailsForGood q := by
  intro now source
  obtain ⟨e, failed, fatal⟩ := isAsked.answer malformed now source
  exact ⟨e, failed, fatal.2 (settled now source)⟩

theorem IsAsked.mild (isAsked : timeline.IsAsked q reply?) (malformed : q.IsMalformed)
    (unsettled : ∀ now source, ¬ ∃ reply ∈ reply? now source, reply.Settles)
    {reply : Query → Instant → Reply} (atOnce : timeline.AnswersAtOnce reply) (now : Instant)
    (source : σ) : (reply q now).isFatal = false := by
  obtain ⟨e, failed, fatal⟩ := isAsked.answer malformed now source
  rw [atOnce.result_eq] at failed
  rw [failed]
  exact Bool.eq_false_iff.2 fun isFatal => unsettled now source (fatal.1 isFatal)

end Malformed

end Poll.Timeline

open Api (Request Reply Client)
open Poll (Timeline Plan Moment)

/-- How a query is read whose path the client looks at too late, and how a poll with it ends. -/
structure Query.IsReadLate (q : Query) : Prop where
  /-- Every read fails, and for good if and only if there is a reply that settles it. -/
  read : ∀ {σ : Type} {server : Request → σ → Option (Reply × σ)} {client : Client} {before : σ}
    {reply? : Option Reply} {after : σ}, client.Asks server q before reply? after →
    ∃ e known, (client.answer (.fetch q)).run server before = some ((.error e, known), after) ∧
      (e.isFatal = true ↔ ∃ reply ∈ reply?, reply.Settles)
  unsuccessful : ∀ {σ : Type} {timeline : Timeline σ} {reply? : Instant → σ → Option Reply},
    timeline.IsAsked q reply? → ∀ (plan : Plan), ∀ queries, q ∈ queries → ∀ before,
    ∃ result after, timeline.run (Poll.poll plan queries) before = some (result, after) ∧
      ∀ ending report, result = some ending → ending.report? = some report →
        report.succeeded = false
  /-- Replies that settle the reads end the poll in its first round. -/
  brokenOff : ∀ {σ : Type} {timeline : Timeline σ} {reply? : Instant → σ → Option Reply},
    timeline.IsAsked q reply? → (∀ now source, ∃ reply ∈ reply? now source, reply.Settles) →
    ∀ (plan : Plan), ∀ queries, q ∈ queries → ∀ before,
    ∃ ending report after, timeline.run (Poll.poll plan queries) before = some (some ending, after) ∧
      ending.report? = some report ∧ report.attempts = 1 ∧
      Timeline.BreaksOff after.visits report ending.verdict
  /-- Without such a reply the poll goes on until its time is over, unless another query ends it. -/
  waitedOut : ∀ {σ : Type} {timeline : Timeline σ} {reply? : Instant → σ → Option Reply},
    timeline.IsAsked q reply? → (∀ now source, ¬ ∃ reply ∈ reply? now source, reply.Settles) →
    ∀ {answer : Query → Instant → Poll.Reply}, timeline.AnswersAtOnce answer →
    ∀ plan : Plan, 0 < plan.interval → timeline.IsExactUpTo plan.timeout →
    ∀ queries, q ∈ queries →
    (∀ p ∈ queries, p ≠ q → ∀ now, (answer p now).isFatal = false) → ∀ before,
    ∃ ending report after, timeline.run (Poll.poll plan queries) before = some (some ending, after) ∧
      ending.verdict = .ok report ∧ report.stage = .timedOut ∧
      report.attempts = plan.timeout / plan.interval + 1

/-- A path that means nothing is found out only with an object at hand: the query fails with every reply,
but it is given up only with a reply that brings the object or refuses it for good. A poll with it never
succeeds, and it lasts one round or its whole time, as the replies are. -/
theorem malformed_path_read_late {q : Query} (malformed : q.IsMalformed) : q.IsReadLate := by
  constructor
  case read =>
    intro σ server client before reply? after asks
    exact asks.fails malformed
  case unsuccessful =>
    intro σ timeline reply? isAsked plan queries member before
    exact Timeline.poll_not_succeeded plan member (isAsked.fails malformed) before
  case brokenOff =>
    intro σ timeline reply? isAsked settled plan queries member before
    exact Timeline.poll_breaks_off plan member (isAsked.failsForGood malformed settled) before
  case waitedOut =>
    intro σ timeline reply? isAsked unsettled answer atOnce plan paced exact queries member others before
    have mild : ∀ p ∈ queries, ∀ now, (answer p now).isFatal = false := by
      intro p asked now
      by_cases same : p = q
      · rw [same]
        exact isAsked.mild malformed unsettled atOnce now before.source
      · exact others p asked same now
    exact Timeline.poll_waits_out plan member (isAsked.fails malformed) atOnce mild paced exact before

namespace Api

/-- A pod, seen at a path without its last brace. -/
def unclosed : Query := ⟨"pod", "web", "shop", some "\x7b.status.phase"⟩

def pod : Resource := ⟨"", "v1", "Pod", "pods", true⟩

def knowing : Client := ⟨some [pod]⟩

def replying (reply : Reply) (_ : Request) (_ : Unit) : Option (Reply × Unit) := some (reply, ())

/-- A timeline on which reads are made by a client of such a server, at once. -/
def askedAtOnce (reply : Reply) : Timeline Unit where
  answer q _ _ := (.ready, Client.taken q reply, ())
  cancelAt := none

def web : Json.Value :=
  .object [("metadata", .object [("name", .string "web")]),
    ("status", .object [("phase", .string "Running")])]

def running : Reply := .answered 200 web.text

def missing : Reply :=
  .answered 404 (Rehearsal.Server.absent "/api/v1/namespaces/shop/pods/web").2

theorem unclosed_isMalformed : unclosed.IsMalformed :=
  ⟨"\x7b.status.phase", ⟨"\x7b.status.phase", .unbalancedBraces⟩, rfl, rfl⟩

theorem resolve_pod : Catalog.resolve [pod] unclosed.kind = some pod := by decide

theorem named_web : Client.named (pod.path unclosed.space) unclosed.name =
    .ok ⟨.get, "/api/v1/namespaces/shop/pods/web", none⟩ := rfl

theorem missing_read : missing.read Document.object =
    .error (.refused ⟨404, "no object at /api/v1/namespaces/shop/pods/web", "NotFound"⟩) := by
  have told : Status.ofReply 404 (Rehearsal.Server.absent "/api/v1/namespaces/shop/pods/web").2 =
      ⟨404, "no object at /api/v1/namespaces/shop/pods/web", "NotFound"⟩ := by decide +kernel
  rw [← told]
  rfl

section Unclosed

variable (reply : Reply)

theorem unclosed_asks : knowing.Asks (replying reply) unclosed () (some reply) () :=
  .replied rfl resolve_pod named_web rfl

theorem unclosed_isAsked : (askedAtOnce reply).IsAsked unclosed fun _ _ => some reply :=
  fun _ _ => ⟨Unit, replying reply, knowing, knowing, (), (), unclosed_asks reply,
    Client.run_fetch_of_replied rfl resolve_pod named_web rfl⟩

end Unclosed

theorem malformed_path_read_late_running :
    unclosed.IsMalformed ∧ knowing.Asks (replying running) unclosed () (some running) () ∧
      (∃ e known, (knowing.answer (.fetch unclosed)).run (replying running) () =
        some ((.error e, known), ()) ∧ e.isFatal = true) ∧
      ∃ ending report after, (askedAtOnce running).run
          (Poll.poll { condition := .equals "Running" } [unclosed]) ⟨0, (), []⟩ =
        some (some ending, after) ∧ ending.report? = some report ∧ report.attempts = 1 := by
  have read : running.read Document.object = .ok web := by decide +kernel
  have settles : running.Settles := .found read
  have late := malformed_path_read_late unclosed_isMalformed
  obtain ⟨e, known, ran, fatal⟩ := late.read (unclosed_asks running)
  obtain ⟨ending, report, after, polled, reported, attempts, -⟩ :=
    late.brokenOff (unclosed_isAsked running) (fun _ _ => ⟨_, rfl, settles⟩)
      { condition := .equals "Running" } [unclosed] List.mem_cons_self ⟨0, (), []⟩
  exact ⟨unclosed_isMalformed, unclosed_asks running, ⟨e, known, ran, fatal.2 ⟨_, rfl, settles⟩⟩,
    ending, report, after, polled, reported, attempts⟩

/-- While the pod is not there, the path is not looked at: the read fails as any other read of it would,
and a poll waits for the pod until its time is over. -/
theorem unclosed_path_waited_for :
    unclosed.IsMalformed ∧ knowing.Asks (replying missing) unclosed () (some missing) () ∧
      (∃ detail, (knowing.answer (.fetch unclosed)).run (replying missing) () =
        some ((.error (.notFound detail), knowing), ())) ∧
      ∃ ending report after, (askedAtOnce missing).run
          (Poll.poll { condition := .equals "Running" } [unclosed]) ⟨0, (), []⟩ =
        some (some ending, after) ∧ ending.verdict = .ok report ∧ report.stage = .timedOut ∧
        report.attempts = 13 := by
  obtain ⟨detail, failed⟩ : ∃ detail, Client.taken unclosed missing = .error (.notFound detail) :=
    ⟨_, by rw [Client.taken, missing_read]; rfl⟩
  have ran : (knowing.answer (.fetch unclosed)).run (replying missing) () =
      some ((Client.taken unclosed missing, knowing), ()) :=
    Client.run_fetch_of_replied rfl resolve_pod named_web rfl
  have atOnce : (askedAtOnce missing).AnswersAtOnce fun q _ => Client.taken q missing :=
    ⟨fun _ _ _ => ⟨_, rfl⟩, rfl⟩
  have exact : (askedAtOnce missing).IsExactUpTo (Duration.ofSecs 60) :=
    Timeline.isExactUpTo_of_waited rfl (by decide)
  obtain ⟨ending, report, after, polled, verdict, stage, attempts⟩ :=
    Timeline.poll_waits_out { condition := .equals "Running" } (List.mem_singleton_self unclosed)
      (fun _ _ => ⟨_, failed⟩) atOnce
      (List.forall_mem_singleton.2 fun _ => by simp only [failed]; rfl) (by decide) exact ⟨0, (), []⟩
  exact ⟨unclosed_isMalformed, unclosed_asks missing, ⟨detail, by rw [ran, failed]; rfl⟩,
    ending, report, after, polled, verdict, stage, attempts⟩

end Api

end Readiness
