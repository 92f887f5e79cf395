/-
Streams of whole units.

A stream that was put together from whole units is taken apart into the same units,
and any front of it into those that it holds completely.
-/

import Crocofix.Library.Scan
import Mathlib.Data.List.Forall2

namespace Crocofix.Scan

variable {State Fault Symbol : Type}

namespace Scanner

variable (scanner : Scanner State Fault Symbol)

/-- The symbols are one whole unit, and nothing else. -/
def Frames (fresh : State) (piece : List Symbol) (unit : State) : Prop :=
  scanner.drain fresh fresh piece = ⟨[unit], fresh, [], none⟩

variable {scanner}

theorem drain_nil (fresh : State) : scanner.drain fresh fresh [] = ⟨[], fresh, [], none⟩ := by
  have waits := scanner.run_nil fresh
  rw [scanner.drain_waiting fresh (by rw [waits]), waits]
  rfl

theorem drain_frames {fresh : State} {pieces : List (List Symbol)} {units : List State}
    (frames : List.Forall₂ (scanner.Frames fresh) pieces units) :
    scanner.drain fresh fresh pieces.flatten = ⟨units, fresh, [], none⟩ := by
  induction frames with
  | nil => exact drain_nil fresh
  | @cons piece unit pieces units first rest ih =>
      unfold Frames at first
      rw [List.flatten_cons, scanner.drain_append fresh fresh piece _ (by rw [first]),
        first, List.nil_append, ih]
      rfl

/-- Scanning that ends between two units and has found none had nothing to scan. -/
theorem nil_of_no_units {fresh state : State} (leaves : scanner.Leaves fresh)
    {input : List Symbol} (none : (scanner.drain fresh state input).units = [])
    (settled : (scanner.drain fresh state input).Settled fresh) : input = [] := by
  cases ending : (scanner.run state input).ending with
  | waiting => exact scanner.nil_of_settled leaves ending settled
  | finished =>
      rw [scanner.drain_finished fresh ending] at none
      simp [Drained.prepend] at none
  | failed fault =>
      have sound := settled.sound
      rw [scanner.drain_failed fresh ending] at sound
      cases sound

/-- What is left over behind whole units is the end of what follows them. -/
theorem drain_rest_le {fresh : State} {pieces : List (List Symbol)} {units : List State}
    (frames : List.Forall₂ (scanner.Frames fresh) pieces units) {front : List Symbol}
    (within : pieces.flatten <+: front) :
    (scanner.drain fresh fresh front).rest.length + pieces.flatten.length ≤
      front.length := by
  obtain ⟨gap, rfl⟩ := within
  have all := drain_frames frames
  rw [scanner.drain_append fresh fresh _ gap (by rw [all]), all, List.nil_append]
  have left := (scanner.drain_suffix fresh fresh gap).length_le
  change (scanner.drain fresh fresh gap).rest.length + _ ≤ _
  rw [List.length_append]
  omega

theorem units_prefix {fresh : State} {pieces : List (List Symbol)} {units : List State}
    (frames : List.Forall₂ (scanner.Frames fresh) pieces units) {front : List Symbol}
    (within : pieces.flatten <+: front) :
    units <+: (scanner.drain fresh fresh front).units := by
  obtain ⟨gap, rfl⟩ := within
  have all := drain_frames frames
  rw [scanner.drain_append fresh fresh _ gap (by rw [all]), all]
  exact List.prefix_append _ _

/-- In the front of a stream of whole units those are found that it holds. -/
theorem drain_front {fresh : State} (leaves : scanner.Leaves fresh)
    {pieces : List (List Symbol)} {units : List State}
    (frames : List.Forall₂ (scanner.Frames fresh) pieces units)
    {front : List Symbol} (isFront : front <+: pieces.flatten) :
    (scanner.drain fresh fresh front).units <+: units ∧
      (pieces.take (scanner.drain fresh fresh front).units.length).flatten <+: front ∧
      (scanner.drain fresh fresh front).fault = none := by
  obtain ⟨more, whole⟩ := isFront
  have all := drain_frames frames
  rw [← whole] at all
  have sound : (scanner.drain fresh fresh front).fault = none :=
    scanner.drain_sound_of_append (by rw [all])
  rw [scanner.drain_append fresh fresh front more sound] at all
  have split := congrArg Drained.units all
  change (scanner.drain fresh fresh front).units ++ _ = units at split
  refine ⟨⟨_, split⟩, ?_, sound⟩
  · generalize counted : (scanner.drain fresh fresh front).units.length = count
    have some : (pieces.take count).flatten <+: pieces.flatten := by
      refine ⟨(pieces.drop count).flatten, ?_⟩
      rw [← List.flatten_append, List.take_append_drop]
    rcases List.prefix_or_prefix_of_prefix some ⟨more, whole⟩ with within | ⟨gap, filled⟩
    · exact within
    · -- The front would end inside of a unit that it holds.
      have part := drain_frames (List.forall₂_take count frames)
      rw [← filled, scanner.drain_append fresh fresh front gap sound] at part
      have found := congrArg Drained.units part
      rw [← split, ← counted, List.take_left] at found
      have settled : (scanner.drain fresh (scanner.drain fresh fresh front).state
          ((scanner.drain fresh fresh front).rest ++ gap)).Settled fresh := by
        rw [← Drained.settled_prepend_iff fresh (scanner.drain fresh fresh front).units,
          part]
        exact ⟨rfl, rfl, rfl⟩
      have empty := nil_of_no_units leaves (List.append_right_eq_self.mp found) settled
      have nothing := (List.append_eq_nil_iff.mp empty).2
      exact ⟨[], by rw [← filled, nothing, List.append_nil, List.append_nil]⟩

end Scanner

end Crocofix.Scan
