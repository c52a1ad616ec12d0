import Mathlib.Data.List.Basic
import BatchJob.Console.Listener
import BatchJob.Proofs.Lifecycle.Exchanges
import BatchJob.Rehearsal.ScriptedLauncher

/-!
# What the listener asks for

The listener takes the replies of the console one after the other until the first failure, whatever comes of what it
does about them. While it waits for a reply the other holders of the child's lifecycle go on: a child may be started
and collected meanwhile. So the listener is looked at among others who do anything they like between two replies
(`listenAmid`); alone, it is `listen` (`listenAmid_alone`). Only a STOP has it call the launcher, and then it asks for
the end of the child that is tracked when the STOP comes (`Service.Proper`).

Main statement: `listener_requests`.
-/

namespace BatchJob.Console

open Lifecycle

variable {σ : Type}

/-! ## The listener among others -/

/-- A reply of the console, and what others have done to the child's lifecycle since the reply before it. -/
structure Arrival (σ : Type) where
  meanwhile : Lifecycle σ → Lifecycle σ
  reply : Reply

/-- A reply while nobody else does anything. -/
def Arrival.alone (reply : Reply) : Arrival σ where
  meanwhile := id
  reply := reply

/-- Serves replies up to the first failure and answers those that follow it, as `listen` does, while others act. -/
def listenAmid (L : Launcher σ) (s : Lifecycle σ) : List (Arrival σ) → Lifecycle σ × List (Arrival σ)
  | [] => (takeLeave s .closed, [])
  | ⟨meanwhile, .error e⟩ :: rest => (takeLeave (meanwhile s) e, rest)
  | ⟨meanwhile, .ok command⟩ :: rest => listenAmid L (serve L (meanwhile s) command) rest

/-- A listener among others who do nothing is a listener. -/
theorem listenAmid_alone (L : Launcher σ) (s : Lifecycle σ) (replies : List Reply) :
    listenAmid L s (replies.map .alone) =
      ((listen L s replies).1, (listen L s replies).2.map .alone) := by
  induction replies generalizing s with
  | nil => rfl
  | cons reply replies ih =>
    cases reply with
    | error e => rfl
    | ok command => exact ih (serve L s command)

/-! ## One command -/

/-- A command as it was served. -/
structure Service (σ : Type) where
  command : Command
  /-- The child's lifecycle when the command came. -/
  before : Lifecycle σ
  /-- The calls that were made for the command, in order, with their answers. -/
  exchanges : List Exchange
  after : Lifecycle σ

/-- Serves a command and notes what is exchanged with the launcher. -/
def service (L : Launcher σ) (s : Lifecycle σ) (command : Command) : Service σ :=
  let w := serve L.watched s.watch command
  { command, before := s, exchanges := w.host.exchanges.reverse, after := w.bare }

/-- What holds of the service of a command. -/
structure Service.Proper (x : Service σ) : Prop where
  /-- A STOP asks for the end of the child that is tracked when it comes. -/
  stop : x.command = .stop → ∃ answer, Requests x.before.child .term x.exchanges answer
  /-- Any other command is logged, and that is all. -/
  other : x.command ≠ .stop → x.exchanges = [] ∧ ∃ log, x.after = { x.before with log }

theorem serve_bare (L : Launcher σ) (w : Lifecycle (Watched σ)) (command : Command) :
    serve L w.bare command = (serve L.watched w command).bare := by
  cases command with
  | stop =>
    unfold serve
    rw [logged_bare, requestEnd_bare]
    rcases (w.logged .info stopReceived).requestEnd L.watched .term with ⟨_ | _, w'⟩ <;> rfl
  | modify text | unrecognized text => rfl

/-- A service that is noted is the service. -/
@[simp] theorem service_after (L : Launcher σ) (s : Lifecycle σ) (command : Command) :
    (service L s command).after = serve L s command :=
  (serve_bare L s.watch command).symm

/-- Beside its request to the launcher a STOP only writes log lines. -/
theorem serve_stop_host (L : Launcher σ) (s : Lifecycle σ) :
    (serve L s .stop).host = ((s.logged .info stopReceived).requestEnd L .term).2.host := by
  unfold serve
  rcases (s.logged .info stopReceived).requestEnd L .term with ⟨_ | _, s'⟩ <;> rfl

/-- Every service is proper. -/
theorem service_proper (L : Launcher σ) (s : Lifecycle σ) (command : Command) : (service L s command).Proper := by
  cases command with
  | stop =>
    refine ⟨fun _ => ?_, fun h => absurd rfl h⟩
    obtain ⟨exchanges, hexchanged, hrequests⟩ := (s.logged .info stopReceived).watch.requestEnd_exchanged L .term
    have hnoted : (service L s .stop).exchanges = exchanges := by
      unfold service
      simp only [serve_stop_host]
      exact hexchanged.exchanges_eq
    rw [hnoted]
    exact ⟨_, hrequests⟩
  | modify text | unrecognized text => exact ⟨nofun, fun _ => ⟨rfl, _, rfl⟩⟩

/-! ## One command after the other -/

/-- The services of the commands that come before the first failure. -/
def services (L : Launcher σ) (s : Lifecycle σ) : List (Arrival σ) → List (Service σ)
  | [] => []
  | ⟨_, .error _⟩ :: _ => []
  | ⟨meanwhile, .ok command⟩ :: rest =>
    service L (meanwhile s) command :: services L (serve L (meanwhile s) command) rest

/-- The state after some services. -/
def stateAfter (s : Lifecycle σ) (services : List (Service σ)) : Lifecycle σ :=
  (services.getLast?.map Service.after).getD s

/-- A reply that carries a command. -/
def Arrival.command (arrival : (Lifecycle σ → Lifecycle σ) × Command) : Arrival σ where
  meanwhile := arrival.1
  reply := .ok arrival.2

theorem services_cons (L : Launcher σ) (s : Lifecycle σ) (change : Lifecycle σ → Lifecycle σ) (command : Command)
    (rest : List (Arrival σ)) :
    services L s (.command (change, command) :: rest) =
      service L (change s) command :: services L (serve L (change s) command) rest := rfl

theorem stateAfter_cons (s : Lifecycle σ) (x : Service σ) (services : List (Service σ)) :
    stateAfter s (x :: services) = stateAfter x.after services := by
  unfold stateAfter
  rw [List.getLast?_cons]
  cases services.getLast? <;> rfl

variable {L : Launcher σ} {s : Lifecycle σ} {arrivals : List (Arrival σ)}

theorem proper_of_mem_services {x : Service σ} (mem : x ∈ services L s arrivals) :
    x.Proper ∧ x.after = serve L x.before x.command := by
  induction arrivals generalizing s with
  | nil => cases mem
  | cons arrival rest ih =>
    obtain ⟨meanwhile, e | command⟩ := arrival
    · cases mem
    · rcases List.mem_cons.mp mem with rfl | hmem
      · exact ⟨service_proper L (meanwhile s) command, service_after L (meanwhile s) command⟩
      · exact ih hmem

/-- The listener takes the replies up to the first failure, and serves those before it. -/
theorem listenAmid_error (L : Launcher σ) (s : Lifecycle σ) (early : List ((Lifecycle σ → Lifecycle σ) × Command))
    (meanwhile : Lifecycle σ → Lifecycle σ) (e : ConsoleError) (late : List (Arrival σ)) :
    listenAmid L s (early.map .command ++ ⟨meanwhile, .error e⟩ :: late) =
      (takeLeave (meanwhile (stateAfter s (services L s (early.map .command)))) e, late) ∧
    services L s (early.map .command ++ ⟨meanwhile, .error e⟩ :: late) = services L s (early.map .command) ∧
    (services L s (early.map .command)).map Service.command = early.map Prod.snd := by
  induction early generalizing s with
  | nil => exact ⟨rfl, rfl, rfl⟩
  | cons first early ih =>
    obtain ⟨change, command⟩ := first
    obtain ⟨hlisten, hsame, hcommands⟩ := ih (serve L (change s) command)
    refine ⟨?_, congrArg (service L (change s) command :: ·) hsame, congrArg (command :: ·) hcommands⟩
    rw [List.map_cons, services_cons, stateAfter_cons, service_after]
    exact hlisten

/-! ## The requests -/

/-- The process group that a call signals, and with what, if it is such a call. -/
def signalled? : Exchange → Option (Pid × Signal)
  | .signal group sent _ => some (group, sent)
  | _ => none

/-- What a command asks for in a state: a STOP asks for the end of the tracked child, if there is one. -/
def request? (x : Service σ) : Option (Pid × Signal) :=
  if x.command = .stop then x.before.child.map (·, .term) else none

/-- A service signals the group of the child that it is to end, once, and nobody else. -/
theorem Service.Proper.signalled {x : Service σ} (h : x.Proper) :
    x.exchanges.filterMap signalled? = (request? x).toList := by
  unfold request?
  by_cases hstop : x.command = .stop
  · obtain ⟨answer, hrequests⟩ := h.stop hstop
    rw [if_pos hstop]
    generalize x.exchanges = exchanges at hrequests
    cases hrequests with
    | tooEarly huntracked =>
      rw [huntracked]
      rfl
    | served htracked hends =>
      rw [htracked]
      cases hends <;> rfl
  · rw [if_neg hstop, (h.other hstop).1]
    rfl

/-- **The listener takes the replies of the console up to the first failure and no further, and for each STOP among
them, and for nothing else, it asks for the end of the child that is tracked at that moment.** It does so in the order
of the STOPs, with one SIGTERM to the process group of the child, or without any call if no child is tracked, and
whatever comes of it, the next reply is taken. Others may do anything to the child's lifecycle between two replies;
if nobody does, this is `listen`. -/
theorem listener_requests (L : Launcher σ) (s : Lifecycle σ) (early : List ((Lifecycle σ → Lifecycle σ) × Command))
    (meanwhile : Lifecycle σ → Lifecycle σ) (e : ConsoleError) (late : List (Arrival σ)) :
    let arrivals := early.map .command ++ ⟨meanwhile, .error e⟩ :: late
    let served := services L s arrivals
    listenAmid L s arrivals = (takeLeave (meanwhile (stateAfter s served)) e, late) ∧
    served.map Service.command = early.map Prod.snd ∧
    (∀ x ∈ served, x.Proper ∧ x.after = serve L x.before x.command) ∧
    (served.flatMap Service.exchanges).filterMap signalled? = served.filterMap request? ∧
    ∀ replies : List Reply, listenAmid L s (replies.map .alone) =
      ((listen L s replies).1, (listen L s replies).2.map .alone) := by
  intro arrivals served
  obtain ⟨hlisten, hsame, hcommands⟩ := listenAmid_error L s early meanwhile e late
  have hserved : served = services L s (early.map .command) := hsame
  have hproper : ∀ x ∈ served, x.Proper ∧ x.after = serve L x.before x.command :=
    fun _ hmem => proper_of_mem_services hmem
  refine ⟨?_, ?_, hproper, ?_, listenAmid_alone L s⟩
  · rw [hserved]
    exact hlisten
  · rw [hserved]
    exact hcommands
  · rw [List.filterMap_flatMap, List.filterMap_eq_flatMap_toList]
    exact List.flatMap_congr fun x hmem => (hproper x hmem).1.signalled

/-- A STOP that cannot be carried out does not keep the next one from being served; after the first failure of the
console nothing is. -/
example :
    let s : Lifecycle Rehearsal.LaunchScript := { tracked := 7, host := { signals := [.error .perm] } }
    let (s, left) := listen Rehearsal.LaunchScript.launcher s
      [.ok .stop, .ok (.modify "text"), .ok .stop, .error .closed, .ok .stop]
    s.calls = [.wait 7, .signal 7 .term, .signal 7 .term] ∧ left = [.ok .stop] :=
  ⟨rfl, rfl⟩

end BatchJob.Console
