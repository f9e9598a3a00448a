import NexusGrid.Lib.Run

/-! # The bytes of a tunnel

One direction of a stream: the pump reads the local socket and sends a frame for each chunk, the other
side dials its socket and writes what the frames bring. A frame that is handled before the stream is
registered is dropped: `_send_to_peer` picks a connection for each frame anew, so that data need not wait
behind the open frame whose handler still dials.
-/

namespace NexusGrid.Networking

open Lib

/-- The stream on the side that writes. -/
inductive FarSide
  | dialing
  | registered
  /-- Closed, dropped or never dialed. -/
  | gone
deriving DecidableEq

structure Pipe where
  read : List UInt8 := []
  pumping : Bool := true
  /-- The frames on their way. -/
  wire : List (List UInt8) := []
  far : FarSide
  written : List UInt8 := []

inductive PipeEvent
  /-- A turn of the pump. The send may fail. -/
  | pump (chunk : List UInt8) (sent : Bool)
  /-- The pump ends, for whatever reason. -/
  | stop
  /-- The dial of the other side ends. -/
  | dialed (works : Bool)
  /-- The next frame is handled, which drops it when no stream is found; a failed write closes the
  stream. -/
  | deliver (works : Bool)
  | farEnds
  /-- The next frame does not arrive. -/
  | lose

namespace Pipe

def step (s : Pipe) : PipeEvent → Pipe
  | .pump chunk sent =>
    if s.pumping = false then s
    else if sent then { s with read := s.read ++ chunk, wire := s.wire ++ [chunk] }
    else { s with read := s.read ++ chunk, pumping := false }
  | .stop => { s with pumping := false }
  | .dialed works => if s.far = .dialing then { s with far := if works then .registered else .gone } else s
  | .deliver works =>
    match s.far, s.wire with
    | .registered, chunk :: wire =>
      if works then { s with wire, written := s.written ++ chunk } else { s with wire, far := .gone }
    | _, _ :: wire => { s with wire }
    | _, [] => s
  | .farEnds => if s.far = .registered then { s with far := .gone } else s
  | .lose => { s with wire := s.wire.tail }

/-- A frame is lost only when the other side has no use for it any more, and no data is handled before the
dial has ended. -/
def LosesNone (s : Pipe) : PipeEvent → Prop
  | .lose => s.far = .gone
  | .deliver _ => s.far = .dialing → s.wire = []
  | _ => True

/-- Nothing but the bytes on their way is between what was read and what is written. -/
structure Inv (s : Pipe) : Prop where
  flowing : s.far ≠ .gone → ∃ unsent, s.read = s.written ++ s.wire.flatten ++ unsent ∧ (s.pumping = true → unsent = [])
  written : s.written <+: s.read

theorem Inv.of_gone {s : Pipe} (hfar : s.far = .gone) (h : s.written <+: s.read) : s.Inv :=
  ⟨fun hne => absurd hfar hne, h⟩

theorem Inv.of_flowing {s : Pipe} (h : ∃ unsent, s.read = s.written ++ s.wire.flatten ++ unsent ∧
    (s.pumping = true → unsent = [])) : s.Inv := by
  refine ⟨fun _ => h, ?_⟩
  obtain ⟨unsent, hread, -⟩ := h
  exact ⟨s.wire.flatten ++ unsent, by rw [hread, List.append_assoc]⟩

theorem Inv.step {s : Pipe} {e : PipeEvent} (hlose : s.LosesNone e) (h : s.Inv) : (s.step e).Inv := by
  by_cases hgone : s.far = .gone
  · -- nothing is written any more
    cases e with
    | pump chunk sent =>
      have hprefix : s.written <+: s.read ++ chunk := h.written.trans (List.prefix_append _ _)
      simp only [Pipe.step]
      split_ifs
      · exact h
      · exact .of_gone hgone hprefix
      · exact .of_gone hgone hprefix
    | stop | lose => exact .of_gone hgone h.written
    | dialed works | farEnds => simpa [Pipe.step, hgone] using h
    | deliver works =>
      cases hwire : s.wire with
      | nil => simpa [Pipe.step, hgone, hwire] using h
      | cons chunk wire => simpa [Pipe.step, hgone, hwire] using Inv.of_gone (s := { s with wire }) hgone h.written
  · obtain ⟨unsent, hread, hunsent⟩ := h.flowing hgone
    cases e with
    | pump chunk sent =>
      simp only [Pipe.step]
      split_ifs with hpump
      · exact h
      · have hnone := hunsent (by simpa using hpump)
        exact .of_flowing ⟨[], by simp [hread, hnone], fun _ => rfl⟩
      have hnone := hunsent (by simpa using hpump)
      exact .of_flowing ⟨chunk, by simp [hread, hnone], nofun⟩
    | stop => exact .of_flowing ⟨unsent, hread, nofun⟩
    | dialed works =>
      simp only [Pipe.step]
      split_ifs
      · exact .of_flowing ⟨unsent, hread, hunsent⟩
      · exact .of_gone rfl h.written
      · exact h
    | deliver works =>
      cases hfar : s.far with
      | gone => exact absurd hfar hgone
      | dialing => simpa [Pipe.step, hfar, hlose hfar] using h
      | registered =>
        cases hwire : s.wire with
        | nil => simpa [Pipe.step, hfar, hwire] using h
        | cons chunk wire =>
          simp only [Pipe.step, hfar, hwire]
          split_ifs
          · exact .of_flowing ⟨unsent, by simp [hread, hwire], hunsent⟩
          · exact .of_gone rfl h.written
    | farEnds =>
      simp only [Pipe.step]
      split_ifs
      · exact .of_gone rfl h.written
      · exact h
    | lose => exact absurd hlose hgone

end Pipe

end NexusGrid.Networking
