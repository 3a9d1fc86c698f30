import Assay.Machine.Launch
import Assay.Proofs.Capture

/-!
# How the bytes of a stream arrive

A capture depends on the bytes of a stream only, not on the chunks and the interruptions in which
a reader gets them, nor on the writes in which a machine takes them.
-/

namespace Assay

open Text (Bytes)

namespace Child

namespace Read

variable {Fault : Type}

def bytes : Read Fault → Bytes
  | .chunk bytes _ => bytes
  | .interrupted | .failed _ => []

/-- A read after which the reader asks for more: an interrupted one, or some bytes while the
capture is not given up. -/
inductive Continues : Read Fault → Prop where
  | chunk (bytes : Bytes) (some : bytes ≠ []) : Continues (.chunk bytes)
  | interrupted : Continues .interrupted

end Read

namespace Capture

variable {Fault : Type}

theorem ofBytes_eq (cap : Nat) (bytes : Bytes) :
    ofBytes cap bytes = { bytes := bytes.take cap, truncated := decide (cap < bytes.length) } := by
  by_cases long : cap < bytes.length
  · simp [ofBytes_of_lt long, long]
  · have fits : bytes.length ≤ cap := Nat.not_lt.mp long
    simp [ofBytes, absorb, fits, List.take_of_length_le fits]

theorem absorb_ofBytes (cap : Nat) (seen chunk : Bytes) :
    (ofBytes cap seen).absorb cap chunk = ofBytes cap (seen ++ chunk) := by
  rw [ofBytes_eq, ofBytes_eq, absorb, List.take_append, List.length_append]
  by_cases full : cap < seen.length
  · have spent : cap - seen.length = 0 := Nat.sub_eq_zero_of_le (Nat.le_of_lt full)
    have beyond : cap < seen.length + chunk.length := Nat.lt_add_right _ full
    simp [full, beyond, spent]
  · have room : cap - (seen.take cap).length = cap - seen.length := by
      rw [List.length_take]
      omega
    simp only [full, decide_false, Bool.false_eq_true, if_false, room]
    split
    next fits =>
      have within : ¬cap < seen.length + chunk.length := by omega
      simp [within, List.take_of_length_le fits]
    next long =>
      have beyond : cap < seen.length + chunk.length := by omega
      simp [beyond]

theorem readAll_append (cap : Nat) {reads : List (Read Fault)}
    (going : ∀ read ∈ reads, read.Continues) (seen : Bytes) (later : List (Read Fault)) :
    readAll cap (ofBytes cap seen) (reads ++ later) =
      readAll cap (ofBytes cap (seen ++ reads.flatMap Read.bytes)) later := by
  induction reads generalizing seen with
  | nil => rw [List.nil_append, List.flatMap_nil, List.append_nil]
  | cons read reads ih =>
    obtain ⟨first, rest⟩ := List.forall_mem_cons.mp going
    rw [List.cons_append, List.flatMap_cons, ← List.append_assoc]
    cases first with
    | chunk bytes some =>
      have nonempty : ¬(bytes.isEmpty || false) = true := by simpa using some
      rw [readAll, if_neg nonempty, absorb_ofBytes, ih rest, Read.bytes]
    | interrupted => rw [readAll, ih rest, Read.bytes, List.append_nil]

theorem ofReads_append (cap : Nat) {reads : List (Read Fault)}
    (going : ∀ read ∈ reads, read.Continues) (later : List (Read Fault)) :
    ofReads cap (reads ++ later) =
      readAll cap (ofBytes cap (reads.flatMap Read.bytes)) later := by
  have start : ({} : Capture) = ofBytes cap [] := by simp [ofBytes, absorb]
  rw [ofReads, start, readAll_append cap going, List.nil_append]

end Capture

end Child

namespace Machine

open Child (Capture)

/-- The machine after some writes to a stream, if none of them has to wait. -/
def writeAll (m : Machine) (i : Nat) (writes : List Bytes) : Option Machine :=
  writes.foldlM (fun m bytes => (m.writeNow? i bytes).map Prod.snd) m

/-- A sink that has taken these bytes. -/
def Holds (m : Machine) (i cap : Nat) (seen : Bytes) : Prop :=
  ∃ pieces, m.streams[i]? =
      some (.sink pieces (cap - seen.length) (decide (cap < seen.length))) ∧
    pieces.reverse.flatten = seen.take cap

theorem Holds.capture_eq {m : Machine} {i cap : Nat} {seen : Bytes} (holds : m.Holds i cap seen) :
    m.capture i = Capture.ofBytes cap seen := by
  obtain ⟨pieces, sink, kept⟩ := holds
  simp only [capture, written, sink, kept, Capture.ofBytes_eq]

theorem Holds.write {m : Machine} {i cap : Nat} {seen : Bytes} (holds : m.Holds i cap seen)
    (bytes : Bytes) :
    ∃ post, m.writeNow? i bytes = some (.ok [], post) ∧ post.Holds i cap (seen ++ bytes) := by
  obtain ⟨pieces, sink, kept⟩ := holds
  have there : i < m.streams.size := (Array.getElem?_eq_some_iff.mp sink).1
  have set (stream : Stream) : (m.setStream i stream).streams[i]? = some stream := by
    simp [setStream, there]
  rw [writeNow?, sink]
  by_cases full : cap ≤ seen.length
  · have spent : cap - seen.length = 0 := Nat.sub_eq_zero_of_le full
    refine ⟨_, if_pos spent, pieces, ?_, ?_⟩
    · rw [set, List.length_append, Nat.sub_eq_zero_of_le (Nat.le_add_right_of_le full)]
      cases bytes with
      | nil => simp
      | cons byte bytes => simp; omega
    · rw [kept, List.take_append, spent, List.take_zero, List.append_nil]
  · have room : cap - seen.length ≠ 0 := by omega
    refine ⟨_, if_neg room, bytes.take (cap - seen.length) :: pieces, ?_, ?_⟩
    · have flagged : (decide (cap < seen.length) ||
          ((bytes.take (cap - seen.length)).length = cap - seen.length &&
            !(bytes.drop (cap - seen.length)).isEmpty)) =
          decide (cap < (seen ++ bytes).length) := by
        rw [Bool.eq_iff_iff]
        simp only [List.length_take, List.length_append, Bool.or_eq_true, Bool.and_eq_true,
          decide_eq_true_iff, Bool.not_eq_true', List.isEmpty_eq_false_iff, ne_eq,
          List.drop_eq_nil_iff]
        omega
      rw [set, flagged, List.length_append, List.length_take]
      congr 2
      omega
    · rw [List.reverse_cons, List.flatten_append, kept, List.take_append, List.flatten_singleton]

theorem Holds.writeAll {m : Machine} {i cap : Nat} {seen : Bytes} (holds : m.Holds i cap seen)
    (writes : List Bytes) :
    ∃ post, m.writeAll i writes = some post ∧ post.Holds i cap (seen ++ writes.flatten) := by
  induction writes generalizing m seen with
  | nil => exact ⟨m, rfl, by rwa [List.flatten_nil, List.append_nil]⟩
  | cons bytes writes ih =>
    obtain ⟨next, written, held⟩ := holds.write bytes
    obtain ⟨post, rest, kept⟩ := ih held
    refine ⟨post, ?_, by rwa [List.flatten_cons, ← List.append_assoc]⟩
    rw [Machine.writeAll, List.foldlM_cons, written]
    exact rest

theorem capture_writeAll {m : Machine} {i cap : Nat}
    (fresh : m.streams[i]? = some (.sink [] cap false)) (writes : List Bytes) :
    ∃ post, m.writeAll i writes = some post ∧
      post.capture i = Capture.ofBytes cap writes.flatten := by
  have holds : m.Holds i cap [] := ⟨[], by simpa using fresh, List.take_nil.symm⟩
  obtain ⟨post, written, kept⟩ := holds.writeAll writes
  exact ⟨post, written, kept.capture_eq⟩

end Machine

namespace Child.Capture

open Machine

variable {Fault : Type}

/-- A reader that is not given up takes a stream to its end, however the bytes are divided and the
reads interrupted, and nothing after it. It keeps the first bytes and tells whether there were
more, as a sink of the machine does that is written the same bytes. A failed read is the
result. -/
theorem ofReads_of_arrival (cap : Nat) (reads later : List (Read Fault))
    (going : ∀ read ∈ reads, read.Continues) :
    (∀ abandoned, ofReads cap (reads ++ .chunk [] abandoned :: later) =
      (.ok
        { bytes := (reads.flatMap Read.bytes).take cap
          truncated := decide (cap < (reads.flatMap Read.bytes).length) }, later)) ∧
    (∀ fault, ofReads cap (reads ++ .failed fault :: later) = (.error fault, later)) ∧
    ∀ (m : Machine) (i : Nat) (writes : List Bytes),
      m.streams[i]? = some (.sink [] cap false) →
      writes.flatten = reads.flatMap Read.bytes →
      ∃ post, m.writeAll i writes = some post ∧
        (ofReads cap (reads ++ [.chunk []])).1 = .ok (post.capture i) := by
  refine ⟨fun abandoned => ?_, fun fault => ?_, fun m i writes fresh same => ?_⟩
  · rw [ofReads_append cap going, readAll, ofBytes_eq]
    rfl
  · rw [ofReads_append cap going, readAll]
  · obtain ⟨post, written, kept⟩ := capture_writeAll fresh writes
    refine ⟨post, written, ?_⟩
    rw [kept, same, ofReads_append cap going]
    rfl

theorem ofReads_of_arrival_straddling :
    let reads : List (Read SysFault) := [.chunk [71, 105], .interrupted, .chunk [116, 10]]
    (∀ read ∈ reads, read.Continues) ∧
      ofReads 3 (reads ++ .chunk [] :: [.interrupted]) =
        (.ok { bytes := [71, 105, 116], truncated := true }, [.interrupted]) := by
  intro reads
  have going : ∀ read ∈ reads, read.Continues := by
    simp only [reads, List.forall_mem_cons]
    exact ⟨.chunk _ (by decide), .interrupted, .chunk _ (by decide), by simp⟩
  exact ⟨going, (ofReads_of_arrival 3 reads [.interrupted] going).1 false⟩

end Child.Capture

end Assay
