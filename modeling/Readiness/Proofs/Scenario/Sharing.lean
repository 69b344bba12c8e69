import Readiness.Proofs.Program
import Readiness.Scenario.Request

/-! Scenarios that share one cluster. Each of them is a program whose calls are cut into the single
exchanges with the cluster that they are made of, and the exchanges of all scenarios may come in any
order. A project that is there once stays there; what a scenario relies on is no more than that. -/
namespace Readiness

namespace Scenario

variable {ρ reply σ μ ι α β : Type}

inductive Wire (ρ : Type) where
  | exchange (request : ρ)
  | other (request : Request)

def Wire.Answer (reply : Type) : Wire ρ → Type
  | .exchange _ => reply
  | .other request => Scenario.Answer request

abbrev Wired (ρ reply : Type) := Program (Wire ρ) (Wire.Answer reply)

def exchanged : Program ρ (fun _ => reply) α → Wired ρ reply α
  | .done value => .done value
  | .ask request next => .ask (.exchange request) fun reply => exchanged (next reply)

theorem exchanged_bind (session : Program ρ (fun _ => reply) α)
    (next : α → Program ρ (fun _ => reply) β) :
    exchanged (session.bind next) = (exchanged session).bind fun value => exchanged (next value) := by
  induction session with
  | done value => rfl
  | ask request rest ih => exact congrArg (Program.ask (Wire.exchange request)) (funext ih)

/-- Calls by the exchanges that they are made of. Looks are answered in time. -/
def wire (calls : μ → (call : Cluster.Call) → Program ρ (fun _ => reply) (call.Answer × μ))
    (memory : μ) : (request : Request) → Wired ρ reply (Answer request × μ)
  | .look (.cluster call) => exchanged (calls memory call)
  | .lookWithin (.cluster call) _ => do
    let (answer, memory) ← exchanged (calls memory call)
    let now ← Program.perform (Wire.other .clock : Wire ρ)
    return ((.answered answer, now), memory)
  | request => do return (← Program.perform (Wire.other request : Wire ρ), memory)

def Task.wired (calls : μ → (call : Cluster.Call) → Program ρ (fun _ => reply) (call.Answer × μ))
    (memory : μ) (task : Task α) : Wired ρ reply (Except Error α) :=
  (task.run.handleWith (wire calls) memory).bind fun out => .done out.1

/-- Cut into exchanges, a task ends as it does where each request is answered as a whole. -/
theorem Task.run_wired
    (calls : μ → (call : Cluster.Call) → Program ρ (fun _ => reply) (call.Answer × μ))
    (world : (request : Wire ρ) → σ → Option (request.Answer reply × σ)) (task : Task α)
    (memory : μ) (state : σ) :
    (task.wired calls memory).run world state =
      (task.run.run (fun request (here : μ × σ) =>
        ((wire calls here.1 request).run world here.2).map fun out =>
          (out.1.1, (out.1.2, out.2))) (memory, state)).map fun out => (out.1, out.2.2) := by
  refine (Program.run_bind (task.run.handleWith (wire calls) memory) _ state).trans ?_
  rw [Program.run_handleWith]
  cases task.run.run _ (memory, state) <;> rfl

/-- A cluster that never loses a project which it has. -/
structure Host (ρ reply σ : Type) where
  serve : ρ → σ → reply × σ
  has : σ → Bool
  kept : ∀ request state, has state = true → has (serve request state).2 = true

/-- Whatever others do in between, the program ends with a value of which `post` holds. `made` tells
that the project is known to be there, `past` what was asked and whether it was there before. -/
def Ensures (host : Host ρ reply σ) (post : Bool → List (ρ × Bool) → α → Prop) :
    Wired ρ reply α → Bool → List (ρ × Bool) → Prop
  | .done value, made, past => post made past value
  | .ask (.exchange request) next, made, past => ∀ state, (made = true → host.has state = true) →
    Ensures host post (next (host.serve request state).1) (host.has (host.serve request state).2)
      (past ++ [(request, host.has state)])
  | .ask (.other _) next, made, past => ∀ answer, Ensures host post (next answer) made past

section Ensures

variable {host : Host ρ reply σ} {made : Bool} {past : List (ρ × Bool)}
variable {post middle : Bool → List (ρ × Bool) → α → Prop}

theorem Ensures.bind {program : Wired ρ reply α} {next : α → Wired ρ reply β}
    {post : Bool → List (ρ × Bool) → β → Prop} (first : Ensures host middle program made past)
    (rest : ∀ made past value, middle made past value → Ensures host post (next value) made past) :
    Ensures host post (program.bind next) made past := by
  induction program generalizing made past with
  | done value => exact rest made past value first
  | ask request more ih =>
    cases request with
    | exchange request => exact fun state known => ih _ (first state known)
    | other request => exact fun answer => ih answer (first answer)

theorem Ensures.mono {program : Wired ρ reply α} (first : Ensures host middle program made past)
    (implies : ∀ made past value, middle made past value → post made past value) :
    Ensures host post program made past := by
  induction program generalizing made past with
  | done value => exact implies made past value first
  | ask request more ih =>
    cases request with
    | exchange request => exact fun state known => ih _ (first state known)
    | other request => exact fun answer => ih answer (first answer)

/-- A session in which all requests are answered the same whatever happens ends as it does alone. -/
theorem ensures_of_steady {described : ρ → Option reply}
    (steady : ∀ request answer, described request = some answer →
      ∀ state, (host.serve request state).1 = answer)
    {session : Program ρ (fun _ => reply) α} {value : α}
    (ran : session.run (fun request (_ : Unit) => (described request).map (·, ())) () =
      some (value, ()))
    (past : List (ρ × Bool)) :
    Ensures host (fun made _ result => made = true ∧ result = value) (exchanged session) true
      past := by
  induction session generalizing past with
  | done result => exact ⟨rfl, congrArg Prod.fst (Option.some.inj ran)⟩
  | ask request next ih =>
    intro state there
    rw [Program.run] at ran
    cases known : described request with
    | none => simp [known] at ran
    | some answer =>
      rw [known] at ran
      rw [host.kept request state (there rfl), steady request answer known]
      exact ih answer ran _

variable {calls : μ → (call : Cluster.Call) → Program ρ (fun _ => reply) (call.Answer × μ)}
variable {memory : μ} {post : Bool → List (ρ × Bool) → α × μ → Prop}

theorem ensures_clock {next : Instant → Asking α}
    (rest : ∀ now, Ensures host post ((next now).handleWith (wire calls) memory) made past) :
    Ensures host post ((Program.ask Request.clock next : Asking α).handleWith (wire calls) memory)
      made past := rest

theorem ensures_look {call : Cluster.Call} {next : call.Answer → Asking α}
    {middle : Bool → List (ρ × Bool) → call.Answer × μ → Prop}
    (looked : Ensures host middle (exchanged (calls memory call)) made past)
    (rest : ∀ made past out, middle made past out →
      Ensures host post ((next out.1).handleWith (wire calls) out.2) made past) :
    Ensures host post ((Program.ask (Request.look (.cluster call)) next : Asking α).handleWith
      (wire calls) memory) made past :=
  looked.bind rest

theorem ensures_lookWithin {call : Cluster.Call} {budget : Duration}
    {next : Poll.Timed call.Answer × Instant → Asking α}
    {middle : Bool → List (ρ × Bool) → call.Answer × μ → Prop}
    (looked : Ensures host middle (exchanged (calls memory call)) made past)
    (rest : ∀ made past out now, middle made past out →
      Ensures host post ((next (.answered out.1, now)).handleWith (wire calls) out.2) made past) :
    Ensures host post ((Program.ask (Request.lookWithin (.cluster call) budget) next :
      Asking α).handleWith (wire calls) memory) made past := by
  have answered : Ensures host
      (fun made past out => ∃ answer now, out.1 = (.answered answer, now) ∧
        middle made past (answer, out.2))
      (wire calls memory (.lookWithin (.cluster call) budget)) made past :=
    looked.bind fun _ _ out here now => ⟨out.1, now, rfl, here⟩
  apply answered.bind
  rintro made past ⟨_, memory⟩ ⟨answer, now, rfl, here⟩
  exact rest made past (answer, memory) now here

end Ensures

structure Party (ρ reply α : Type) where
  program : Wired ρ reply α
  /-- What it asked of the cluster so far, and whether the project was there before. -/
  past : List (ρ × Bool) := []

def Party.advance (host : Host ρ reply σ) (answer : (request : Request) → Answer request)
    (party : Party ρ reply α) (state : σ) : Party ρ reply α × σ :=
  match party.program with
  | .done _ => (party, state)
  | .ask (.exchange request) next =>
    let (reply, after) := host.serve request state
    (⟨next reply, party.past ++ [(request, host.has state)]⟩, after)
  | .ask (.other request) next => (⟨next (answer request), party.past⟩, state)

section Party

variable {host : Host ρ reply σ} {answer : (request : Request) → Answer request}
variable {party : Party ρ reply α} {state : σ}

theorem Party.advance_done {value : α} (ended : party.program = .done value) :
    party.advance host answer state = (party, state) := by
  simp [advance, ended]

theorem Party.advance_exchange {request : ρ} {next : reply → Wired ρ reply α}
    (asks : party.program = .ask (.exchange request) next) :
    party.advance host answer state = (⟨next (host.serve request state).1,
      party.past ++ [(request, host.has state)]⟩, (host.serve request state).2) := by
  simp [advance, asks]

theorem Party.advance_other {request : Request} {next : Answer request → Wired ρ reply α}
    (asks : party.program = .ask (.other request) next) :
    party.advance host answer state = (⟨next (answer request), party.past⟩, state) := by
  simp [advance, asks]

variable (host answer state) in
theorem Party.advance_ask {request : Wire ρ} {next : request.Answer reply → Wired ρ reply α}
    (asks : party.program = .ask request next) :
    ∃ given, (party.advance host answer state).1.program = next given := by
  cases request with
  | exchange =>
    rw [advance_exchange asks]
    exact ⟨_, rfl⟩
  | other =>
    rw [advance_other asks]
    exact ⟨_, rfl⟩

theorem Party.advance_kept (there : host.has state = true) :
    host.has (party.advance host answer state).2 = true := by
  cases asks : party.program with
  | done => rwa [advance_done asks]
  | ask request =>
    cases request with
    | exchange request =>
      rw [advance_exchange asks]
      exact host.kept request state there
    | other => rwa [advance_other asks]

/-- The scenario is going to end as `post` says, by what it knows of the cluster. -/
def Party.OnCourse (host : Host ρ reply σ) (post : Bool → List (ρ × Bool) → α → Prop)
    (party : Party ρ reply α) (state : σ) : Prop :=
  ∃ made, (made = true → host.has state = true) ∧ Ensures host post party.program made party.past

variable {post : Bool → List (ρ × Bool) → α → Prop}

theorem Party.OnCourse.advance (onCourse : party.OnCourse host post state) :
    (party.advance host answer state).1.OnCourse host post
      (party.advance host answer state).2 := by
  obtain ⟨made, known, ensures⟩ := onCourse
  cases asks : party.program with
  | done value =>
    rw [advance_done asks]
    exact ⟨made, known, ensures⟩
  | ask request next =>
    rw [asks] at ensures
    cases request with
    | exchange request =>
      rw [advance_exchange asks]
      exact ⟨_, id, ensures state known⟩
    | other request =>
      rw [advance_other asks]
      exact ⟨made, known, ensures (answer request)⟩

/-- What others do does not lead it astray. -/
theorem Party.OnCourse.later (onCourse : party.OnCourse host post state) {after : σ}
    (kept : host.has state = true → host.has after = true) : party.OnCourse host post after := by
  obtain ⟨made, known, ensures⟩ := onCourse
  exact ⟨made, fun there => kept (known there), ensures⟩

end Party

structure Turn (ι : Type) where
  who : ι
  /-- What is answered to a request that is not for the cluster. -/
  answer : (request : Request) → Answer request

/-- Any order in which each scenario has its turn again and again. -/
structure Schedule (ι : Type) where
  turn : Nat → Turn ι
  fair : ∀ who n, ∃ k, n ≤ k ∧ (turn k).who = who

structure Shared (ι ρ reply σ α : Type) where
  state : σ
  party : ι → Party ρ reply α

section Shared

variable [DecidableEq ι]

def Shared.advance (host : Host ρ reply σ) (turn : Turn ι) (shared : Shared ι ρ reply σ α) :
    Shared ι ρ reply σ α :=
  let (party, state) := (shared.party turn.who).advance host turn.answer shared.state
  ⟨state, fun who => if who = turn.who then party else shared.party who⟩

def Shared.after (host : Host ρ reply σ) (turn : Nat → Turn ι) (start : Shared ι ρ reply σ α) :
    Nat → Shared ι ρ reply σ α
  | 0 => start
  | n + 1 => (start.after host turn n).advance host (turn n)

variable {host : Host ρ reply σ} {turn : Nat → Turn ι} {start : Shared ι ρ reply σ α}

theorem Shared.after_other {who : ι} {n : Nat} (other : (turn n).who ≠ who) :
    (start.after host turn (n + 1)).party who = (start.after host turn n).party who :=
  if_neg fun same => other same.symm

theorem Shared.after_own {who : ι} {n : Nat} (own : (turn n).who = who) :
    (start.after host turn (n + 1)).party who =
      (((start.after host turn n).party who).advance host (turn n).answer
        (start.after host turn n).state).1 := by
  subst own
  exact if_pos rfl

variable (host start) in
theorem Shared.next_turn {who : ι} (d n : Nat) (later : (turn (n + d)).who = who) :
    ∃ k, n ≤ k ∧ (turn k).who = who ∧
      (start.after host turn k).party who = (start.after host turn n).party who := by
  induction d generalizing n with
  | zero => exact ⟨n, Nat.le_refl n, later, rfl⟩
  | succ d ih =>
    by_cases now : (turn n).who = who
    · exact ⟨n, Nat.le_refl n, now, rfl⟩
    · obtain ⟨k, le, own, same⟩ := ih (n + 1) (by rwa [Nat.add_assoc, Nat.add_comm 1])
      exact ⟨k, Nat.le_of_succ_le le, own, same.trans (after_other now)⟩

variable (host start) in
/-- Programs are finite, so whoever has a turn again and again comes to an end. -/
theorem Shared.comes_to_end (schedule : Schedule ι) (who : ι) (n : Nat) :
    ∃ m value, ((start.after host schedule.turn m).party who).program = .done value := by
  generalize begun : ((start.after host schedule.turn n).party who).program = program
  induction program generalizing n with
  | done value => exact ⟨n, value, begun⟩
  | ask request next ih =>
    obtain ⟨later, le, has_turn⟩ := schedule.fair who n
    obtain ⟨d, rfl⟩ := Nat.exists_eq_add_of_le le
    obtain ⟨k, -, own, same⟩ := start.next_turn host d n has_turn
    obtain ⟨given, moved⟩ := Party.advance_ask host (schedule.turn k).answer
      (start.after host schedule.turn k).state (same ▸ begun)
    rw [← after_own own] at moved
    exact ih given (k + 1) moved

theorem Shared.after_done {who : ι} {m : Nat} {value : α}
    (ended : ((start.after host turn m).party who).program = .done value) {k : Nat} (le : m ≤ k) :
    (start.after host turn k).party who = (start.after host turn m).party who := by
  induction le with
  | refl => rfl
  | @step k _ ih =>
    rw [← ih]
    by_cases own : (turn k).who = who
    · rw [after_own own, Party.advance_done (ih ▸ ended)]
    · exact after_other own

variable {post : ι → Bool → List (ρ × Bool) → α → Prop}

theorem Shared.onCourse_advance {shared : Shared ι ρ reply σ α} (turn : Turn ι)
    (all : ∀ who, (shared.party who).OnCourse host (post who) shared.state) (who : ι) :
    ((shared.advance host turn).party who).OnCourse host (post who)
      (shared.advance host turn).state := by
  by_cases own : who = turn.who
  · subst own
    simpa [advance] using (all turn.who).advance
  · simpa [advance, own] using (all who).later Party.advance_kept

theorem Shared.onCourse_after (turn : Nat → Turn ι)
    (all : ∀ who, (start.party who).OnCourse host (post who) start.state) (n : Nat) (who : ι) :
    ((start.after host turn n).party who).OnCourse host (post who)
      (start.after host turn n).state := by
  induction n generalizing who with
  | zero => exact all who
  | succ n ih => exact onCourse_advance (turn n) ih who

/-- From some turn on the scenario has ended with `value`, having asked for `past`. -/
def Shared.EndsWith (host : Host ρ reply σ) (turn : Nat → Turn ι) (start : Shared ι ρ reply σ α)
    (who : ι) (value : α) (past : List (ρ × Bool)) : Prop :=
  ∃ m, ∀ k, m ≤ k → (start.after host turn k).party who = ⟨.done value, past⟩

theorem Shared.EndsWith.unique {who : ι} {first second : α} {past past' : List (ρ × Bool)}
    (ends : start.EndsWith host turn who first past)
    (again : start.EndsWith host turn who second past') : first = second ∧ past = past' := by
  obtain ⟨m, ends⟩ := ends
  obtain ⟨n, again⟩ := again
  have same := (ends _ (Nat.le_max_left m n)).symm.trans (again _ (Nat.le_max_right m n))
  injection same with programs pasts
  injection programs with values
  exact ⟨values, pasts⟩

theorem Shared.endsWith_of_done {who : ι} {m : Nat} {value : α}
    (ended : ((start.after host turn m).party who).program = .done value) :
    start.EndsWith host turn who value ((start.after host turn m).party who).past := by
  refine ⟨m, fun k le => ?_⟩
  rw [after_done ended le, ← ended]

theorem Shared.EndsWith.past_eq {who : ι} {m : Nat} {value : α} {past : List (ρ × Bool)}
    (ends : start.EndsWith host turn who value past)
    (ended : ((start.after host turn m).party who).program.isDone = true) :
    past = ((start.after host turn m).party who).past := by
  cases already : ((start.after host turn m).party who).program with
  | done => exact (ends.unique (endsWith_of_done already)).2
  | ask =>
    rw [already] at ended
    cases ended

/-- Each of the scenarios ends in the end, as its `post` says. -/
theorem Shared.settles (start : Shared ι ρ reply σ α) (schedule : Schedule ι)
    (all : ∀ who, (start.party who).OnCourse host (post who) start.state) (who : ι) :
    ∃ made past value, post who made past value ∧
      start.EndsWith host schedule.turn who value past := by
  obtain ⟨m, value, ended⟩ := start.comes_to_end host schedule who 0
  obtain ⟨made, -, ensures⟩ := onCourse_after schedule.turn all m who
  rw [ended] at ensures
  exact ⟨made, _, value, ensures, endsWith_of_done ended⟩

end Shared

end Scenario

end Readiness
