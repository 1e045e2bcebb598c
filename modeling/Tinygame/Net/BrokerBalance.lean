import Tinygame.Base.Balance
import Tinygame.Net.BrokerSteps

/-!
# Requests that come all at once

Requests of one type that arrive before anything else happens are spread over the living workers of
the type.
-/

namespace Tinygame.Broker
open Balance (Least Spread)
variable {δ : Type} {b : State δ} {server : String}

/-- The workers of the type a request may go to. -/
def State.living (b : State δ) (server : String) : Finset String :=
  ((b.workids server).filter fun workid => ((b.worker? server workid).map Worker.liveness).any (0 ≤ ·)).toFinset

def State.loadOf (b : State δ) (server workid : String) : ℤ := ((b.worker? server workid).map Worker.load).getD 0

theorem mem_living {workid : String} : workid ∈ b.living server ↔ ∃ w, b.worker? server workid = some w ∧ 0 ≤ w.liveness := by
  unfold State.living
  rw [List.mem_toFinset, List.mem_filter, mem_workids]
  constructor
  · rintro ⟨present, alive⟩
    obtain ⟨w, known⟩ := Option.isSome_iff_exists.mp present
    exact ⟨w, known, by simpa [known] using alive⟩
  · rintro ⟨w, found, positive⟩
    simp [found, positive]

/-- A request of the type goes to a living worker of least load. -/
theorem routeReq_least (named : ∀ workid, (b.worker? server workid).isSome = true → workid ≠ "") (alive : b.living server ≠ ∅)
    (clientid rid : String) (data : δ) :
    ∃ workid, Least (b.living server) (b.loadOf server) workid ∧
      routeReq b server clientid rid data = routeTo b server workid clientid rid data := by
  obtain ⟨some_, there⟩ := Finset.nonempty_of_ne_empty alive
  obtain ⟨w, known, positive⟩ := mem_living.mp there
  have typed : ∃ ws, b.workers.get? server = some ws := by
    unfold State.worker? at known
    obtain ⟨ws, found, _⟩ := Option.bind_eq_some_iff.mp known
    exact ⟨ws, found⟩
  obtain ⟨ws, typed⟩ := typed
  have worker : ∀ workid, b.worker? server workid = ws.get? workid := fun workid => by simp [State.worker?, typed]
  have least := leastLoaded_least ws
  cases chosen : leastLoaded ws with
  | none =>
    rw [chosen] at least
    exact absurd positive (least some_ w (worker some_ ▸ known))
  | some workid =>
    rw [chosen] at least
    obtain ⟨record, found, living, below⟩ := least
    have full : workid ≠ "" := named workid (by rw [worker, found, Option.isSome_some])
    refine ⟨workid, ⟨mem_living.mpr ⟨record, by rw [worker, found], living⟩, fun other member => ?_⟩, ?_⟩
    · obtain ⟨record', found', living'⟩ := mem_living.mp member
      rw [worker] at found'
      have le := below other record' found' living'
      simpa [State.loadOf, worker, found, found'] using le
    · have kept : truthy (some workid) = some workid := Option.filter_some_pos (by simpa using full)
      simp [routeReq, typed, chosen, kept]

theorem living_routeTo (b : State δ) (server workid clientid rid : String) (data : δ) :
    (routeTo b server workid clientid rid data).living server = b.living server := by
  ext other
  have lives := routeTo_lives b server workid clientid rid data server other
  constructor
  · intro member
    obtain ⟨w, found, positive⟩ := mem_living.mp member
    rw [found] at lives
    obtain ⟨w', found', same⟩ := Option.map_eq_some_iff.mp lives.symm
    exact mem_living.mpr ⟨w', found', same ▸ positive⟩
  · intro member
    obtain ⟨w, found, positive⟩ := mem_living.mp member
    rw [found] at lives
    obtain ⟨w', found', same⟩ := Option.map_eq_some_iff.mp lives
    exact mem_living.mpr ⟨w', found', same ▸ positive⟩

theorem loadOf_routeTo {workid : String} (member : workid ∈ b.living server) (clientid rid : String) (data : δ) :
    (routeTo b server workid clientid rid data).loadOf server = Balance.bump (b.loadOf server) workid := by
  obtain ⟨w, found, _⟩ := mem_living.mp member
  funext other
  unfold State.loadOf Balance.bump
  rw [worker?_routeTo]
  by_cases same : other = workid
  · subst same
    simp [found]
  · simp [same]

/-- A request with its client, its id and its data. -/
abbrev Request (δ : Type) := String × String × δ

def Request.event (server : String) (r : Request δ) : Event δ := .message r.1 (.request server r.2.1 r.2.2)

theorem requests_spread (named : ∀ workid, (b.worker? server workid).isSome = true → workid ≠ "") (alive : b.living server ≠ ∅)
    (requests : List (Request δ)) :
    ∃ chosen, chosen.length = requests.length ∧
      Spread (b.living server) (b.loadOf server) chosen ((run step b (requests.map (Request.event server))).loadOf server) ∧
      (run step b (requests.map (Request.event server))).socket =
        b.socket ++ List.zipWith (fun workid r => .request workid r.2.1 r.2.2) chosen requests := by
  induction requests generalizing b with
  | nil => exact ⟨[], rfl, .nil _, (List.append_nil _).symm⟩
  | cons r rest ih =>
    obtain ⟨workid, least, routed⟩ := routeReq_least named alive r.1 r.2.1 r.2.2
    have lives := routeTo_lives b server workid r.1 r.2.1 r.2.2
    have living := living_routeTo b server workid r.1 r.2.1 r.2.2
    obtain ⟨chosen, length, spread, sent⟩ := @ih (routeTo b server workid r.1 r.2.1 r.2.2)
      (fun other known => named other ((lives.isSome server other).symm.trans known)) (by rwa [living])
    have moved : step b (Request.event server r) = routeTo b server workid r.1 r.2.1 r.2.2 := routed
    rw [living, loadOf_routeTo least.1] at spread
    refine ⟨workid :: chosen, by simp [length], ?_, ?_⟩
    · rw [List.map_cons, run_cons, moved]
      exact .cons least spread
    · rw [List.map_cons, run_cons, moved, sent]
      show b.socket ++ [.request workid r.2.1 r.2.2] ++ _ = _
      simp

/-- Requests of a type with living workers that come before anything else happens are all handed to such workers, so that no
worker that gets one has more than one delivery more than any other. However else they are handed out, the fullest worker that
gets one is no less full. -/
theorem requests_balance (named : ∀ workid, (b.worker? server workid).isSome = true → workid ≠ "") (alive : b.living server ≠ ∅)
    (requests : List (Request δ)) :
    ∃ chosen, (run step b (requests.map (Request.event server))).socket =
        b.socket ++ List.zipWith (fun workid r => .request workid r.2.1 r.2.2) chosen requests ∧
      chosen.length = requests.length ∧
      (∀ workid ∈ chosen, ∀ other ∈ b.living server,
        (run step b (requests.map (Request.event server))).loadOf server workid ≤
          (run step b (requests.map (Request.event server))).loadOf server other + 1) ∧
      ∀ share : String → ℕ, ∑ workid ∈ b.living server, share workid = requests.length → ∀ workid ∈ chosen,
        ∃ other ∈ b.living server, 0 < share other ∧
          (run step b (requests.map (Request.event server))).loadOf server workid ≤ b.loadOf server other + share other := by
  obtain ⟨chosen, length, spread, sent⟩ := requests_spread named alive requests
  refine ⟨chosen, sent, length, spread.level, fun share all workid got => ?_⟩
  exact spread.optimal share (all.trans length.symm) got

def twoWorkers : State Nat := run step initial [.message "w1" (.heartbeat "world"), .message "w2" (.heartbeat "world")]

def threeRequests : List (Request Nat) := [("c", "r1", 1), ("c", "r2", 2), ("c", "r3", 3)]

theorem requests_balance_two_workers :
    ∃ chosen, chosen.length = 3 ∧ (run step twoWorkers (threeRequests.map (Request.event "world"))).socket =
      List.zipWith (fun workid r => .request workid r.2.1 r.2.2) chosen threeRequests := by
  have named : ∀ workid, (twoWorkers.worker? "world" workid).isSome = true → workid ≠ "" := by
    rintro workid known rfl
    revert known
    decide
  have alive : twoWorkers.living "world" ≠ ∅ := Finset.ne_empty_of_mem (mem_living.mpr ⟨⟨0, 3⟩, by decide, by decide⟩ : "w1" ∈ _)
  obtain ⟨chosen, sent, length, _⟩ := requests_balance named alive threeRequests
  exact ⟨chosen, length, sent⟩

end Tinygame.Broker
