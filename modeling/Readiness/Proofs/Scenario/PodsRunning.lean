import Readiness.Proofs.Poll.Single
import Readiness.Proofs.Program.Simulation
import Readiness.Proofs.Scenario.Effects
import Readiness.Proofs.Scenario.PodSet

/-! How a wait for running pods ends. The set is listed at each multiple of the interval, and the first
listing in which all its pods are running ends the wait with their names. The set is one text meanwhile;
nothing of it is lost as long as names and phases are words and no name has an equals sign in it. -/
namespace Readiness.Scenario

namespace PodSet

/-- A pod of the set that `lead` stands for, with those that build or deploy or without. -/
structure IsIn (lead : String) (helpers : Bool) (pod : Reading) : Prop where
  led : lead = "*" ∨ lead.toList <+: pod.name.toList
  works : helpers = false →
    ¬ "-build".toList <:+ pod.name.toList ∧ ¬ "-deploy".toList <:+ pod.name.toList

theorem belongs_iff_isIn {lead : String} {helpers : Bool} {pod : Reading} :
    belongs lead helpers pod = true ↔ IsIn lead helpers pod := by
  cases helpers with
  | false =>
    rw [belongs_iff]
    exact ⟨fun both => ⟨both.1, fun _ => both.2⟩, fun isIn => ⟨isIn.led, isIn.works rfl⟩⟩
  | true =>
    simp only [belongs, everything, Text.startsWith, Bool.true_or, Bool.and_true, Bool.or_eq_true,
      beq_iff_eq, List.isPrefixOf_iff_prefix]
    exact ⟨fun led => ⟨led, fun without => absurd without (by decide)⟩, IsIn.led⟩

instance (lead : String) (helpers : Bool) (pod : Reading) : Decidable (IsIn lead helpers pod) :=
  decidable_of_iff _ belongs_iff_isIn

/-- The set as it is in a listing; a listing that failed holds no pods. -/
def members (lead : String) (helpers : Bool) (listing : Except FetchError (List Reading)) :
    List Reading :=
  (listing.toOption.getD []).filter (IsIn lead helpers ·)

structure AllRunning (pods : List Reading) : Prop where
  nonempty : pods ≠ []
  running : ∀ pod ∈ pods, pod.state = "Running"

theorem allRunning_iff {pods : List Reading} :
    AllRunning pods ↔ pods ≠ [] ∧ ∀ pod ∈ pods, pod.state = "Running" :=
  ⟨fun all => ⟨all.nonempty, all.running⟩, fun both => ⟨both.1, both.2⟩⟩

instance (pods : List Reading) : Decidable (AllRunning pods) := decidable_of_iff _ allRunning_iff.symm

structure IsPlain (pod : Reading) : Prop where
  name : ∀ c ∈ pod.name.toList, Text.isBlank c = false ∧ c ≠ '='
  phase : ∀ c ∈ pod.state.toList, Text.isBlank c = false

theorem isPlain_iff {pod : Reading} : IsPlain pod ↔
    (pod.name.toList.all fun c => !Text.isBlank c && c != '=') = true ∧
      (pod.state.toList.all fun c => !Text.isBlank c) = true := by
  simp only [List.all_eq_true, Bool.and_eq_true, Bool.not_eq_true', bne_iff_ne]
  exact ⟨fun plain => ⟨plain.name, plain.phase⟩, fun both => ⟨both.1, both.2⟩⟩

instance (pod : Reading) : Decidable (IsPlain pod) := decidable_of_iff _ isPlain_iff.symm

section Sets

variable {pods : List Reading}

theorem IsPlain.isWord {pod : Reading} (plain : IsPlain pod) : Text.IsWord (pairText pod).toList := by
  rw [toList_pairText]
  refine ⟨by simp, fun c member => ?_⟩
  rcases List.mem_append.1 member with member | member
  · rcases List.mem_append.1 member with member | equals
    · exact (plain.name c member).1
    · obtain rfl := List.mem_singleton.1 equals
      decide
  · exact plain.phase c member

theorem IsPlain.cutOf_pairText {pod : Reading} (plain : IsPlain pod) :
    Text.cutOf '=' (pairText pod) = some (pod.name, pod.state) := by
  have cut : Text.cut '=' (pairText pod).toList = some (pod.name.toList, pod.state.toList) :=
    Text.cut_eq_some_iff.2 ⟨by simp [toList_pairText], fun member => (plain.name '=' member).2 rfl⟩
  rw [Text.cutOf, cut]
  simp

theorem wordsOf_set (plain : ∀ pod ∈ pods, IsPlain pod) :
    Text.wordsOf (String.intercalate " " (pods.map pairText)) = pods.map pairText :=
  Text.wordsOf_intercalate (List.forall_mem_map.2 fun pod member => (plain pod member).isWord)

theorem names_set (plain : ∀ pod ∈ pods, IsPlain pod) :
    names (String.intercalate " " (pods.map pairText)) = pods.map (·.name) := by
  rw [names, wordsOf_set plain, List.map_map]
  refine List.map_congr_left fun pod member => ?_
  rw [Function.comp_apply, (plain pod member).cutOf_pairText]
  rfl

theorem running_holds_iff (plain : ∀ pod ∈ pods, IsPlain pod) :
    running.holds (String.intercalate " " (pods.map pairText)) = true ↔ AllRunning pods := by
  have each : (pods.map pairText).all isRunning = true ↔ ∀ pod ∈ pods, pod.state = "Running" := by
    rw [List.all_map, List.all_eq_true]
    refine forall₂_congr fun pod member => ?_
    rw [Function.comp_apply, isRunning, (plain pod member).cutOf_pairText]
    exact beq_iff_eq
  have blank : Text.isAllBlank (String.intercalate " " (pods.map pairText)) = true ↔ pods = [] := by
    cases pods with
    | nil => simp [Text.isAllBlank]
    | cons pod more =>
      obtain ⟨rest, text⟩ := exists_toList_set pod more
      have equals : Text.isBlank '=' = false := by decide
      rw [Text.isAllBlank, text]
      simp [equals]
  simp only [running, wordsOf_set plain, Bool.and_eq_true, Bool.not_eq_true', ← Bool.not_eq_true,
    blank, each, allRunning_iff, ne_eq]

end Sets

section Listings

variable {q : Query} {helpers : Bool} {listing : Except FetchError (List Reading)}

theorem members_eq (lead : String) (pods : List Reading) :
    members lead helpers (.ok pods) = pods.filter (belongs lead helpers) := by
  refine List.filter_congr fun pod _ => ?_
  rw [Bool.eq_iff_iff, decide_eq_true_iff, belongs_iff_isIn]

/-- A set without pods is waited for, be it that none is listed or that the listing failed. -/
theorem bind_reading_of_nil (none : members q.name helpers listing = [])
    (mild : ∀ e, listing = .error e → e.isFatal = false) :
    ∃ e, listing.bind (reading helpers q) = .error e ∧ e.isFatal = false := by
  cases listing with
  | error e => exact ⟨e, rfl, mild e rfl⟩
  | ok pods =>
    rw [members_eq] at none
    exact ⟨.notFound ("no pods matching " ++ q.text), by simp only [Except.bind, reading, none], rfl⟩

theorem bind_reading_of_ne_nil (some : members q.name helpers listing ≠ []) :
    listing.bind (reading helpers q) = .ok ⟨q.name,
      String.intercalate " " ((members q.name helpers listing).map pairText)⟩ := by
  cases listing with
  | error => exact absurd rfl some
  | ok pods =>
    rw [members_eq] at some ⊢
    simp only [Except.bind, reading]

theorem isPlain_of_mem_members {lead : String}
    (plain : ∀ pods, listing = .ok pods → ∀ pod ∈ pods, IsPlain pod) :
    ∀ pod ∈ members lead helpers listing, IsPlain pod := by
  cases listing with
  | error => exact nofun
  | ok pods => exact fun pod member => plain pods rfl pod (List.mem_filter.1 member).1

theorem not_isFatal_bind_reading (mild : ∀ e, listing = .error e → e.isFatal = false) :
    Poll.Reply.isFatal (listing.bind (reading helpers q)) = false := by
  by_cases none : members q.name helpers listing = []
  · obtain ⟨e, failed, retried⟩ := bind_reading_of_nil none mild
    rw [failed]
    exact retried
  · rw [bind_reading_of_ne_nil none]
    rfl

theorem meets_iff (plain : ∀ pods, listing = .ok pods → ∀ pod ∈ pods, IsPlain pod)
    (mild : ∀ e, listing = .error e → e.isFatal = false) :
    Poll.Reply.meets running (listing.bind (reading helpers q)) = true ↔
      AllRunning (members q.name helpers listing) := by
  by_cases none : members q.name helpers listing = []
  · obtain ⟨e, failed, -⟩ := bind_reading_of_nil none mild
    rw [failed]
    exact ⟨nofun, fun all => absurd none all.nonempty⟩
  · rw [bind_reading_of_ne_nil none]
    exact running_holds_iff (isPlain_of_mem_members plain)

end Listings

/-- A world in which nothing takes time but pauses: it tells the time, lists the pods that there are at the
time, and is disturbed by nothing. A timer tells how long a pause lasts. -/
structure Watches {σ : Type} (world : (request : Request) → σ → Option (Answer request × σ))
    (clock : σ → Instant) (timer : Duration → Duration) (space : String)
    (pods : Instant → Except FetchError (List Reading)) : Prop where
  tells : ∀ state, ∃ after, world .clock state = some (clock state, after) ∧ clock after = clock state
  lists : ∀ budget state, ∃ after, clock after = clock state ∧
    world (.lookWithin (.cluster (.list "pods" space)) budget) state =
      some ((.answered (pods (clock state)), clock state), after)
  pauses : ∀ length state, ∃ after, clock after = clock state + timer length ∧
    world (.pause length) state = some ((.finished, clock state + timer length), after)

def sights (timer : Duration → Duration) (helpers : Bool)
    (pods : Instant → Except FetchError (List Reading)) : Poll.Timeline Unit where
  answer q now _ := (.ready, (pods now).bind (reading helpers q), ())
  cancelAt := none
  timer := timer

section Waits

variable {σ : Type} {world : (request : Request) → σ → Option (Answer request × σ)}
variable {clock : σ → Instant} {timer : Duration → Duration} {space lead : String} {helpers : Bool}
variable {pods : Instant → Except FetchError (List Reading)}

theorem Watches.simulates (watches : Watches world clock timer space pods) :
    Program.Simulates (sights timer helpers pods).respond
      (fun request state => ((source helpers).carryOut request).run world state)
      (Poll.Request.IsOf [⟨"pods", lead, space, none⟩])
      (fun (moment : Poll.Moment Unit) state => moment.now = clock state) := by
  constructor
  rintro request allowed ⟨now, _, visits⟩ state (rfl : now = clock state) answer after answered
  cases request with
  | clock =>
    obtain ⟨rfl, rfl⟩ := Prod.mk.inj (Option.some.inj answered)
    obtain ⟨later, told, kept⟩ := watches.tells state
    exact ⟨later, (Program.run_perform ..).trans told, kept.symm⟩
  | fetch q budget =>
    obtain rfl := List.mem_singleton.1 allowed
    obtain ⟨rfl, rfl⟩ := Prod.mk.inj (Option.some.inj answered)
    obtain ⟨later, kept, listed⟩ := watches.lists budget state
    refine ⟨later, (Program.run_bind ..).trans ?_, kept.symm⟩
    rw [Program.run_perform]
    exact congrArg (Option.bind · _) listed
  | read => cases allowed
  | pause length =>
    obtain ⟨rfl, rfl⟩ := Prod.mk.inj (Option.some.inj answered)
    obtain ⟨later, kept, paused⟩ := watches.pauses length state
    exact ⟨later, (Program.run_perform ..).trans paused, kept.symm⟩

end Waits

end PodSet

section Waits

variable {σ : Type} {world : (request : Request) → σ → Option (Answer request × σ)}

theorem Task.run_await {ctx : Context} {source : Source} {queries : List Query} {wait : Wait}
    {condition : Condition} {before after : σ} {ending : Poll.Ending} {report : Poll.Report}
    (ran : (Poll.poll (ctx.settings.timings.plan wait condition) queries).run
      (fun request state => (source.carryOut request).run world state) before =
        some (some ending, after)) (verdict : ending.verdict = .ok report) :
    (Task.await ctx source queries wait condition).run.run world before =
      some (if report.succeeded then .ok report else .error (.poll (.timeout report)), after) := by
  have polled : (Task.poll source (ctx.settings.timings.plan wait condition) queries).run.run world
      before = some (.ok report, after) := by
    rw [Task.poll, Task.run_bind, Program.run_bind]
    have lifted : (ExceptT.lift ((Poll.poll (ctx.settings.timings.plan wait condition)
        queries).handle source.carryOut) : Task _).run.run world before =
          some (.ok (some ending), after) := by
      refine (Program.run_bind ..).trans ?_
      rw [Program.run_handle, ran]
      rfl
    rw [lifted, Option.bind_some]
    simp only [verdict]
    rfl
  rw [Task.await, Task.run_bind, Program.run_bind, polled, Option.bind_some]
  dsimp only [Poll.Report.ensureSatisfied]
  split <;> rfl

end Waits

namespace PodSet

theorem run_await {σ : Type} {world : (request : Request) → σ → Option (Answer request × σ)}
    {ctx : Context} {space lead : String} {helpers : Bool} {condition : Condition} {before after : σ}
    {waited : Except Error Poll.Report} (chosen : ctx.project = some space)
    (ran : (Task.await ctx (source helpers) [⟨"pods", lead, space, none⟩] .pod condition).run.run world
      before = some (waited, after)) :
    (await ctx lead helpers condition).run.run world before =
      some (waited.map fun report => names (seenState report ⟨"pods", lead, space, none⟩), after) := by
  have begins : await ctx lead helpers condition = (do
      let report ← Task.await ctx (source helpers) [⟨"pods", lead, space, none⟩] .pod condition
      return names (seenState report ⟨"pods", lead, space, none⟩)) := by
    rw [await, Context.space, chosen]
    rfl
  rw [begins, Task.run_bind, Program.run_bind, ran, Option.bind_some]
  cases waited <;> rfl

/-- With a project chosen, a wait for running pods ends; it ends well if and only if the pods of the set
are all running in one of the listings made at multiples of the interval up to the timeout. The first such
listing ends it, with the names of its pods in their order; without one it times out. -/
theorem await_running {σ : Type} {world : (request : Request) → σ → Option (Answer request × σ)}
    {clock : σ → Instant} {timer : Duration → Duration} {space : String}
    {pods : Instant → Except FetchError (List Reading)} {ctx : Context}
    (chosen : ctx.project = some space) (watches : Watches world clock timer space pods)
    (paced : 0 < ctx.settings.timings.interval)
    (exact : ∀ length ≤ ctx.settings.timings.timeout .pod, timer length = length)
    (mild : ∀ now e, pods now = .error e → e.isFatal = false)
    (plain : ∀ now listed, pods now = .ok listed → ∀ pod ∈ listed, IsPlain pod)
    (lead : String) (helpers : Bool) (before : σ) :
    let tick (k : Nat) := k * Duration.ofSecs ctx.settings.timings.interval
    let timeout := ctx.settings.timings.timeout .pod
    let seen (k : Nat) := members lead helpers (pods (clock before + tick k))
    ∃ result after, (await ctx lead helpers running).run.run world before = some (result, after) ∧
      ((∃ names, result = .ok names) ↔ ∃ k, tick k ≤ timeout ∧ AllRunning (seen k)) ∧
      (∀ k, tick k ≤ timeout → AllRunning (seen k) → (∀ j < k, ¬ AllRunning (seen j)) →
        result = .ok ((seen k).map (·.name)) ∧ clock after = clock before + tick k) ∧
      ((∀ k, tick k ≤ timeout → ¬ AllRunning (seen k)) →
        ∃ report, result = .error (.poll (.timeout report))) := by
  intro tick timeout seen
  let q : Query := ⟨"pods", lead, space, none⟩
  let plan := ctx.settings.timings.plan .pod running
  let reply (q : Query) (now : Instant) : Poll.Reply := (pods now).bind (reading helpers q)
  have atOnce : (sights timer helpers pods).AnswersAtOnce reply := ⟨fun _ _ _ => ⟨(), rfl⟩, rfl⟩
  have paced : 0 < plan.interval := Nat.mul_pos paced (by decide)
  have mild' (now : Instant) : (reply q now).isFatal = false := not_isFatal_bind_reading (mild now)
  -- The world does to the wait what the timeline of its sights does to a poll of one query.
  obtain ⟨ending, moment, report, ran, verdict, ends⟩ := Poll.poll_single_closed_form
    (sights timer helpers pods) reply plan q ⟨clock before, (), []⟩ atOnce paced exact mild'
  obtain ⟨after, went, synced⟩ := watches.simulates.run (Poll.poll_uses plan [q]) rfl ran
  have awaited := Task.run_await went verdict
  have met_iff (k : Nat) : (plan.replies reply (clock before) k q).meets plan.condition = true ↔
      AllRunning (seen k) := meets_iff (plain _) (mild _)
  have told := run_await chosen awaited
  rcases ends with ⟨k, reading, inTime, early, given, holds, succeeded, shown, ended⟩ | ⟨never, failed⟩
  · have all : AllRunning (seen k) := (met_iff k).1 (by rw [given]; exact holds)
    have text : reading.state = String.intercalate " " ((seen k).map pairText) :=
      congrArg Reading.state (Except.ok.inj (given.symm.trans (bind_reading_of_ne_nil all.nonempty)))
    have state : seenState report q = reading.state := by
      rw [seenState, shown]
      rfl
    have named : names (seenState report q) = (seen k).map (·.name) := by
      rw [state, text, names_set (isPlain_of_mem_members (plain _))]
    refine ⟨.ok ((seen k).map (·.name)), after, ?_, ⟨fun _ => ⟨k, inTime, all⟩, fun _ => ⟨_, rfl⟩⟩,
      fun j _ all' first => ?_, fun none => absurd all (none k inTime)⟩
    · rw [told, if_pos succeeded, Except.map, named]
    · have same : j = k := by
        rcases Nat.lt_trichotomy j k with before | same | later
        · exact absurd ((met_iff j).2 all') (by simp [early j before])
        · exact same
        · exact absurd all (first k later)
      subst same
      exact ⟨rfl, synced.symm.trans ended⟩
  · have none (k : Nat) (inTime : tick k ≤ timeout) : ¬ AllRunning (seen k) := fun all =>
      absurd ((met_iff k).2 all) (by simp [never k inTime])
    rw [failed] at told
    refine ⟨_, after, told, ⟨?_, ?_⟩, fun k inTime all => absurd all (none k inTime),
      fun _ => ⟨report, rfl⟩⟩
    · rintro ⟨names, ended⟩
      cases ended
    · rintro ⟨k, inTime, all⟩
      exact absurd all (none k inTime)

/-! ## A rollout -/

/-- The listing fails at first; of the two pods that come then, the second one is late. -/
def rolloutPods (now : Instant) : Except FetchError (List Reading) :=
  if now < Duration.ofSecs 1 then .error (.transient "no response")
  else .ok [⟨"web-1-build", "Succeeded"⟩, ⟨"web-1-aaaaa", "Running"⟩,
    ⟨"web-1-bbbbb", if now < Duration.ofSecs 3 then "Pending" else "Running"⟩]

def rollout : (request : Request) → Instant → Option (Answer request × Instant)
  | .clock, now => some (now, now)
  | .lookWithin (.cluster (.list _ _)) _, now => some ((.answered (rolloutPods now), now), now)
  | .pause length, now =>
    some ((.finished, now + Duration.waited length), now + Duration.waited length)
  | _, _ => none

theorem rollout_watches : Watches rollout id Duration.waited "smoke" rolloutPods :=
  ⟨fun _ => ⟨_, rfl, rfl⟩, fun _ _ => ⟨_, rfl, rfl⟩, fun _ _ => ⟨_, rfl, rfl⟩⟩

theorem rollout_mild (now : Instant) (e : FetchError) (failed : rolloutPods now = .error e) :
    e.isFatal = false := by
  unfold rolloutPods at failed
  split at failed
  · obtain rfl := Except.error.inj failed
    rfl
  · cases failed

theorem rollout_plain (now : Instant) (listed : List Reading) (given : rolloutPods now = .ok listed) :
    ∀ pod ∈ listed, IsPlain pod := by
  unfold rolloutPods at given
  split at given
  · cases given
  · obtain rfl := Except.ok.inj given
    simp only [List.forall_mem_cons, List.not_mem_nil, false_implies, implies_true, and_true]
    refine ⟨by decide +kernel, by decide +kernel, ?_⟩
    split <;> decide +kernel

theorem await_running_rollout :
    (await Jenkins.context "web" false running).run.run rollout (0 : Instant) =
      some (.ok ["web-1-aaaaa", "web-1-bbbbb"], Duration.ofSecs 3) := by
  have exact : ∀ length ≤ Jenkins.context.settings.timings.timeout .pod,
      Duration.waited length = length := fun length short =>
    Nat.min_eq_left (Nat.le_trans short (by decide))
  obtain ⟨result, after, ran, -, first, -⟩ := await_running rfl rollout_watches (by decide) exact
    rollout_mild rollout_plain "web" false 0
  obtain ⟨rfl, rfl⟩ := first 3 (by decide) (by decide +kernel) (by decide +kernel)
  exact ran

end PodSet

end Readiness.Scenario
