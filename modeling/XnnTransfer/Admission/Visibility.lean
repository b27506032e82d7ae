import XnnTransfer.Admission.Leases

/-!
# How many pairing prompts are visible

The pairing specification allows one attempt to reach a visible prompt in the
whole process. `MarkVisible` counts the visible entries of the owner of the lease
only, so each of two controllers on one state can have a prompt of its own.
-/

namespace XnnTransfer.Admission

open FirstMatch Handles Pairing Security

namespace State

def visibleAttempts (state : State) : Nat := state.entries.countP fun entry => entry.visible

variable {state state' : State}

theorem visibleAttempts_sublist (h : state'.entries.Sublist state.entries) :
    state'.visibleAttempts ≤ state.visibleAttempts := h.countP_le

theorem Reserves.visibleAttempts {entry : Entry} (h : state.Reserves entry state') :
    state'.visibleAttempts = state.visibleAttempts := by
  rw [State.visibleAttempts, h.entries, List.countP_append,
    List.countP_cons_of_neg (by simp [h.invisible]), List.countP_nil, Nat.add_zero]
  rfl

end State

namespace System

variable {s : System}

/-- While an attempt is visible, only controllers of its owner mark an attempt as visible. -/
def Alone (s : System) : Action → Prop
  | .markVisible slot => ∀ lease own, held s.leases slot = some lease →
      s.state.findLease lease = some own → ∀ other ∈ s.state.entries, other.visible = true →
        other.ownerGeneration = own.ownerGeneration
  | _ => True

theorem bindLease_visibleAttempts_le (s : System) (owner : UInt64) (slot : Nat)
    (request : Request) (windowGeneration : UInt64) :
    (s.bindLease owner slot request windowGeneration).2.state.visibleAttempts ≤
      s.state.visibleAttempts := by
  rcases s.bindLease_cases owner slot request windowGeneration with
    ⟨-, hdropped⟩ | ⟨own, reserved, deadline, displaced, -, -, hbinds, -⟩
  · rw [hdropped]
    exact State.visibleAttempts_sublist (s.state.drop_sublist _)
  · rw [State.visibleAttempts, hbinds.entries]
    refine List.filter_sublist.countP_le.trans (le_of_eq (countP_modifyFirst_eq ?_ _))
    exact fun _ => rfl

theorem quiet_visibleAttempts_le {state state' : State} (h : Quiet state state') :
    state'.visibleAttempts ≤ state.visibleAttempts := by
  cases h with
  | drops hentries hnext => exact State.visibleAttempts_sublist hentries
  | reserves entry h => exact h.visibleAttempts.le

theorem one_visible_step {action : Action}
    (hone : s.state.visibleAttempts ≤ maxVisiblePairingAttempts) (halone : s.Alone action) :
    (s.step action).state.visibleAttempts ≤ maxVisiblePairingAttempts := by
  cases action with
  | bind owner slot request windowGeneration =>
    exact (s.bindLease_visibleAttempts_le owner slot request windowGeneration).trans hone
  | admitConnection memory owner request =>
    rcases s.admitConnection_cases memory owner request with
      ⟨hsame, -⟩ | ⟨added, state, hreserves, -, hadmitted⟩
    · exact (quiet_visibleAttempts_le hsame.quiet).trans hone
    simp only [step, hadmitted]
    refine (bindLease_visibleAttempts_le _ _ _ _ _).trans ?_
    exact hreserves.visibleAttempts.le.trans hone
  | markVisible slot =>
    rcases s.state.markVisible_cases (held s.leases slot) with
      hsame | ⟨own, marked, hheld, hfound, -, hcount, -, hmarked⟩
    · simpa only [step, hsame] using hone
    -- every visible attempt belongs to the same owner, so there is none yet
    have hall : (s.state.entries.countP fun candidate =>
        candidate.ownerGeneration = marked.ownerGeneration ∧ candidate.visible = true) =
          s.state.visibleAttempts := by
      refine List.countP_congr fun other hother => ?_
      have hsame := halone own marked hheld hfound other hother
      simpa using hsame
    rw [hall] at hcount
    simp only [step, hmarked]
    refine (countP_modifyFirst_le s.state.entries).trans ?_
    exact Nat.lt_of_le_of_ne hone hcount
  | _ => exact (quiet_visibleAttempts_le (s.step_quiet rfl)).trans hone

/-- While the controllers leave each other's visible attempts alone, at most one attempt
is visible. -/
theorem run_one_visible {actions : List Action} (h : Runs.Admits step Alone {} actions) :
    (Runs.run step {} actions).state.visibleAttempts ≤ maxVisiblePairingAttempts :=
  Runs.run_invariant (P := fun s : System => s.state.visibleAttempts ≤ maxVisiblePairingAttempts)
    (fun _ _ hone halone => one_visible_step hone halone) (Nat.zero_le _) h

/-- A connection, source or key whose bytes are all the same. -/
def octets (n : Nat) (byte : UInt8) : Octets n := ⟨List.replicate n byte, List.length_replicate⟩

/-- A user-initiated pairing of the local key with another one, at time zero. -/
def plainRequest (byte : UInt8) : Request :=
  { connectionId := octets 16 byte, source := octets 16 byte, localKey := octets 32 0,
    peerKey := octets 32 byte, localRole := .initiator, userInitiated := true, nowMs := 0 }

/-- One controller opens its window, reserves an entry, binds it and shows its prompt. -/
def plainPairing (owner : UInt64) (slot : Nat) (byte : UInt8) : List Action :=
  [.registerOwner, .openWindow owner 0 60000,
    .reserveHandshake {} owner (octets 16 byte) (octets 16 byte) true 0,
    .bind owner slot (plainRequest byte) owner, .markVisible slot]

theorem run_one_visible_plain :
    (Runs.run step {} (plainPairing 1 0 1)).state.visibleAttempts ≤ 1 := by
  refine run_one_visible ⟨trivial, trivial, trivial, trivial, ?_, trivial⟩
  intro lease own _ _ other hother hvisible
  have hnone : (Runs.run step {} ((plainPairing 1 0 1).take 4)).state.visibleAttempts = 0 := by
    decide +kernel
  exact absurd hvisible (List.countP_eq_zero.mp hnone other hother)

/-- Two controllers each show a prompt. -/
theorem two_visible :
    (Runs.run step {} (plainPairing 1 0 1 ++ plainPairing 2 1 2)).state.visibleAttempts = 2 := by
  decide +kernel

end System

end XnnTransfer.Admission
