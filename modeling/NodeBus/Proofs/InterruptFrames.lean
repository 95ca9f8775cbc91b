import Mathlib
import NodeBus.Controller
import NodeBus.Proofs.CommandFrame
import NodeBus.Proofs.Listening

/-!
# Interrupt frames on the idle bus

`Escape.Unescapes` says what the bytes between two markers stand for, without reference to any receiver. The
collector of idle input accepts a request exactly when the bytes that can be heard begin with a frame of it
(`collectBurst_eq_some_iff`); it takes that frame from the queue, and nothing behind it
(`queue_collectBurst`).
-/
namespace NodeBus

namespace Escape

/-- The wire bytes stand for the body: the escape byte protects the one behind it, and any other byte but
the end marker stands for itself. -/
inductive Unescapes : List UInt8 → List UInt8 → Prop
  | nil : Unescapes [] []
  | escaped (byte : UInt8) {wire body : List UInt8} (rest : Unescapes wire body) :
      Unescapes (subst :: byte :: wire) (byte :: body)
  | plain {byte : UInt8} {wire body : List UInt8} (notEnd : byte ≠ etx) (notEscape : byte ≠ subst)
      (rest : Unescapes wire body) : Unescapes (byte :: wire) (byte :: body)

theorem unescapes_escaped (body : List UInt8) : Unescapes (escaped body) body := by
  induction body with
  | nil => exact .nil
  | cons byte rest ih =>
    by_cases needed : needsEscape byte
    · simp only [escaped, needed, if_true]
      exact .escaped byte ih
    · simp only [escaped, needed, Bool.false_eq_true, if_false]
      refine .plain ?_ ?_ ih
      · rintro rfl
        exact needed (by decide)
      · rintro rfl
        exact needed (by decide)

end Escape

namespace InterruptRequest

/-- The header byte, the address and the checksum of a request for attention. -/
def body (request : InterruptRequest) : List UInt8 :=
  let front := [(Header.interrupt request.variant).toByte, request.address]
  front ++ request.variant.checkBytes front

/-- The bytes are a frame of the request: its body between the markers, with any escapes. -/
def FramedAs (request : InterruptRequest) (frame : List UInt8) : Prop :=
  ∃ wire, frame = Escape.stx :: wire ++ [Escape.etx] ∧ Escape.Unescapes wire request.body

theorem length_body (request : InterruptRequest) : request.body.length = 2 + request.variant.length := by
  simp only [body, List.length_append, List.length_cons, List.length_nil, Variant.length_checkBytes]

theorem length_body_lt (request : InterruptRequest) : request.body.length < maxBurst := by
  have check := request.variant.length_le_two
  rw [request.length_body, maxBurst]
  omega

/-- The frame with no more escapes than needed. -/
def frame (request : InterruptRequest) : List UInt8 :=
  Escape.stx :: Escape.escaped request.body ++ [Escape.etx]

theorem framedAs_frame (request : InterruptRequest) : request.FramedAs request.frame :=
  ⟨_, rfl, Escape.unescapes_escaped request.body⟩

end InterruptRequest

namespace Burst

/-- A complete burst carries a request exactly when its bytes are the body of that request. -/
theorem request?_eq_some_iff (burst : Burst) (request : InterruptRequest) :
    burst.request? = some request ↔ burst.bytes = request.body := by
  constructor
  · intro carried
    unfold request? at carried
    split at carried
    case h_2 => cases carried
    rename_i first address check bytes
    split at carried
    case h_2 => cases carried
    rename_i variant header
    split at carried
    case isFalse => cases carried
    rename_i valid
    obtain ⟨length, passes⟩ := valid
    obtain rfl := Option.some.inj carried
    obtain ⟨front, whole⟩ := (variant.passes_iff_sealed _).mp passes
    have marked := (Header.ofByte?_eq_some_iff _ _).mp header
    have split : [first, address] ++ check = front ++ variant.checkBytes front := bytes.symm.trans whole
    obtain ⟨rfl, rfl⟩ := List.append_inj' split (by rw [length, Variant.length_checkBytes])
    rw [whole, marked]
    rfl
  · intro bytes
    obtain ⟨address, variant⟩ := request
    have passes : variant.passes burst.bytes = true :=
      (variant.passes_iff_sealed _).mpr ⟨_, bytes⟩
    simp only [InterruptRequest.body, List.cons_append, List.nil_append] at bytes
    simp only [request?, bytes, Header.ofByte?_toByte]
    rw [bytes] at passes
    simp [passes]

/-- The escape byte that was taken and still waits for its partner. -/
def pending (burst : Burst) : List UInt8 := if burst.phase = .escaped then [Escape.subst] else []

theorem store_of_room (burst : Burst) (byte : UInt8) (room : burst.bytes.length < maxBurst) :
    burst.store byte = { burst with bytes := burst.bytes ++ [byte] } := by
  simp [store, Escape.store?, room]

end Burst

namespace Controller
open Escape

/-- A frame whose body leaves room in the burst is collected up to its end marker. -/
theorem hearAll_hearBurst_frame {wire body : List UInt8} (stands : Unescapes wire body)
    (bytes rest : List UInt8) (room : bytes.length + body.length < maxBurst) :
    hearAll hearBurst { phase := .frame, bytes } (wire ++ etx :: rest) =
      (.enough ({ phase := .frame, bytes := bytes ++ body }, true), wire.length + 1) := by
  induction stands generalizing bytes with
  | nil => simp [hearAll, hearBurst, Burst.feed]
  | escaped byte stands ih =>
    rw [List.length_cons] at room
    have later := ih (bytes ++ [byte]) (by simp; omega)
    have notFull : bytes.length ≠ maxBurst := by omega
    have stored : bytes.length + 1 ≠ maxBurst := by omega
    have notEnd : subst ≠ etx := by decide
    simp only [List.append_assoc, List.singleton_append] at later
    simp [hearAll, hearBurst, Burst.feed, Burst.isFull, Burst.store, store?, notEnd, notFull, stored, later,
      show bytes.length < maxBurst by omega]
  | @plain byte wire body notEnd notEscape stands ih =>
    rw [List.length_cons] at room
    have later := ih (bytes ++ [byte]) (by simp; omega)
    have stored : bytes.length + 1 ≠ maxBurst := by omega
    simp only [List.append_assoc, List.singleton_append] at later
    simp [hearAll, hearBurst, Burst.feed, Burst.isFull, Burst.store, store?, notEnd, notEscape, stored, later,
      show bytes.length < maxBurst by omega]

/-- A burst that will be completed goes on after each byte before the last. -/
theorem goes_on_of_complete {burst next final : Burst} {byte : UInt8} {rest : List UInt8}
    (fed : burst.feed byte = (next, false))
    (complete : (hearAll hearBurst burst (byte :: rest)).1 = .enough (final, true)) :
    next.bytes.length ≠ maxBurst ∧ (hearAll hearBurst next rest).1 = .enough (final, true) := by
  simp only [hearAll, hearBurst, fed] at complete
  by_cases full : next.isFull
  · simp [full] at complete
  · refine ⟨by simpa [Burst.isFull] using full, ?_⟩
    simpa [full] using complete

/-- Noise never turns into a frame. -/
theorem hearAll_hearBurst_noise (burst final : Burst) (heard : List UInt8) (noise : burst.phase = .noise) :
    (hearAll hearBurst burst heard).1 ≠ .enough (final, true) := by
  induction heard generalizing burst with
  | nil => simp [hearAll]
  | cons byte rest ih =>
    intro complete
    have fed : burst.feed byte = (burst.store byte, false) := by simp [Burst.feed, noise]
    have still : (burst.store byte).phase = .noise := by
      unfold Burst.store
      split <;> exact noise
    exact ih (burst.store byte) still (goes_on_of_complete fed complete).2

/-- Whatever completes a burst inside a frame is what was still missing of the frame. -/
theorem frame_of_hearAll_hearBurst (burst final : Burst) (heard : List UInt8)
    (inside : burst.phase = .frame ∨ burst.phase = .escaped) (room : burst.bytes.length < maxBurst)
    (complete : (hearAll hearBurst burst heard).1 = .enough (final, true)) :
    ∃ wire body, wire ++ [etx] <+: heard ∧ Unescapes (burst.pending ++ wire) body ∧
      final.bytes = burst.bytes ++ body := by
  induction heard generalizing burst with
  | nil => simp [hearAll] at complete
  | cons byte rest ih =>
    obtain ⟨phase, bytes⟩ := burst
    have kept : ∀ next : Burst, next = { phase := .frame, bytes := bytes ++ [byte] } →
        Burst.feed { phase, bytes } byte = (next, false) →
        ∃ wire body, wire ++ [etx] <+: rest ∧ Unescapes wire body ∧
          final.bytes = bytes ++ byte :: body := by
      rintro next rfl fed
      obtain ⟨notFull, later⟩ := goes_on_of_complete fed complete
      rw [List.length_append, List.length_singleton] at notFull
      obtain ⟨wire, body, front, stands, gathered⟩ := ih _ (.inl rfl)
        (by simp only [List.length_append, List.length_singleton] at room ⊢; omega) later
      exact ⟨wire, body, front, stands, by simpa using gathered⟩
    have stored := Burst.store_of_room { phase, bytes } byte room
    rcases inside with rfl | rfl
    · by_cases ended : byte = etx
      · subst ended
        simp only [hearAll, hearBurst, Burst.feed, if_true, Hearing.enough.injEq, Prod.mk.injEq,
          and_true] at complete
        obtain rfl := complete
        exact ⟨[], [], by simp, .nil, by simp⟩
      by_cases escape : byte = subst
      · subst escape
        have fed : Burst.feed { phase := .frame, bytes } subst = ({ phase := .escaped, bytes }, false) := by
          simp [Burst.feed, ended]
        obtain ⟨wire, body, front, stands, gathered⟩ :=
          ih { phase := .escaped, bytes } (.inr rfl) room (goes_on_of_complete fed complete).2
        exact ⟨subst :: wire, body, by simpa using front, stands, gathered⟩
      · obtain ⟨wire, body, front, stands, gathered⟩ := kept _ stored (by simp [Burst.feed, ended, escape])
        exact ⟨byte :: wire, byte :: body, by simpa using front, .plain ended escape stands, gathered⟩
    · obtain ⟨wire, body, front, stands, gathered⟩ := kept _ rfl (by simp [Burst.feed, stored])
      exact ⟨byte :: wire, byte :: body, by simpa using front, .escaped byte stands, gathered⟩

theorem hearAll_hearBurst_stx (rest : List UInt8) :
    hearAll hearBurst {} (stx :: rest) =
      ((hearAll hearBurst { phase := .frame } rest).1, (hearAll hearBurst { phase := .frame } rest).2 + 1) := by
  simp only [hearAll, hearBurst, Burst.feed, if_true]
  rfl

/-- A burst is complete exactly when the bytes begin with a frame. -/
theorem hearAll_hearBurst_complete (final : Burst) (heard : List UInt8)
    (complete : (hearAll hearBurst {} heard).1 = .enough (final, true)) :
    ∃ wire, stx :: wire ++ [etx] <+: heard ∧ Unescapes wire final.bytes := by
  cases heard with
  | nil => simp [hearAll] at complete
  | cons byte rest =>
    by_cases start : byte = stx
    · subst start
      rw [hearAll_hearBurst_stx] at complete
      obtain ⟨wire, body, front, stands, gathered⟩ :=
        frame_of_hearAll_hearBurst { phase := .frame } final rest (.inl rfl) (by decide) complete
      refine ⟨wire, by simpa using front, ?_⟩
      rw [gathered]
      exact stands
    · have fed : Burst.feed {} byte = ({ phase := .noise, bytes := [byte] }, false) := by
        simp [Burst.feed, start, Burst.store, store?, maxBurst]
      exact absurd (goes_on_of_complete fed complete).2 (hearAll_hearBurst_noise _ _ _ rfl)

/-- A frame at the start of a burst is collected to its end, with what it stands for. -/
theorem hearAll_hearBurst_whole {wire body : List UInt8} (stands : Unescapes wire body)
    (short : body.length < maxBurst) (rest : List UInt8) :
    hearAll hearBurst {} (stx :: wire ++ [etx] ++ rest) =
      (.enough ({ phase := .frame, bytes := body }, true), (stx :: wire ++ [etx]).length) := by
  have inside := hearAll_hearBurst_frame stands [] rest (by simpa using short)
  have split : stx :: wire ++ [etx] ++ rest = stx :: (wire ++ etx :: rest) := by simp
  rw [split, hearAll_hearBurst_stx, inside]
  simp

/-! ### Collecting from the bus -/

theorem collectBurst_eq (bus : Bus) (gap : Nat) :
    (collectBurst bus gap).1 =
      match (hearAll hearBurst {} (bus.audible gap)).1 with
      | .enough (burst, complete) => burst.finish complete
      | .more _ => none := by
  rw [Bus.audible, ← (listenTo_spec gap hearBurst {} bus.now bus.queue).1]
  unfold collectBurst Bus.listen
  rcases listenTo gap hearBurst {} bus.now bus.queue with ⟨⟨burst, complete⟩ | burst, now, queue⟩ <;> rfl

/-- Collecting a burst only reads. -/
theorem collectBurst_port (bus : Bus) (gap : Nat) :
    (collectBurst bus gap).2.script = bus.script ∧ (collectBurst bus gap).2.written = bus.written := by
  unfold collectBurst Bus.listen
  rcases listenTo gap hearBurst {} bus.now bus.queue with ⟨⟨burst, complete⟩ | burst, now, queue⟩ <;>
    exact ⟨rfl, rfl⟩

/-- Collecting a burst leaves in the queue what its reader leaves there. -/
theorem collectBurst_left (bus : Bus) (gap : Nat) :
    (collectBurst bus gap).2.queue = (listenTo gap hearBurst {} bus.now bus.queue).2.2 := by
  unfold collectBurst Bus.listen
  rcases listenTo gap hearBurst {} bus.now bus.queue with ⟨⟨burst, complete⟩ | burst, now, queue⟩ <;> rfl

/-- **The collector accepts exactly the frames of requests**, told by what can be heard. -/
theorem collectBurst_eq_some_iff (bus : Bus) (gap : Nat) (request : InterruptRequest) :
    (collectBurst bus gap).1 = some request ↔
      ∃ frame, request.FramedAs frame ∧ frame <+: bus.audible gap := by
  rw [collectBurst_eq]
  constructor
  · intro accepted
    rcases hearing : (hearAll hearBurst {} (bus.audible gap)).1 with ⟨burst, complete⟩ | burst
    · rw [hearing] at accepted
      cases complete with
      | false => cases accepted
      | true =>
        obtain ⟨wire, front, stands⟩ := hearAll_hearBurst_complete burst _ hearing
        rw [(Burst.request?_eq_some_iff burst request).mp accepted] at stands
        exact ⟨_, ⟨wire, rfl, stands⟩, front⟩
    · rw [hearing] at accepted
      cases accepted
  · rintro ⟨frame, ⟨wire, rfl, stands⟩, rest, heard⟩
    rw [← heard, hearAll_hearBurst_whole stands request.length_body_lt]
    exact (Burst.request?_eq_some_iff { phase := .frame, bytes := request.body } request).mpr rfl

section Frames

variable (bus : Bus) (gap : Nat) {wire body : List UInt8} (stands : Unescapes wire body)
  (short : body.length < maxBurst) (first : stx :: wire ++ [etx] <+: bus.audible gap)
include stands short first

theorem collectBurst_frame : (collectBurst bus gap).1 = Burst.request? { phase := .frame, bytes := body } := by
  obtain ⟨rest, heard⟩ := first
  rw [collectBurst_eq, ← heard, hearAll_hearBurst_whole stands short]
  rfl

/-- The frame is what is taken from the queue. -/
theorem queue_collectBurst :
    ∃ read, bus.queue = read ++ (collectBurst bus gap).2.queue ∧ bytesOf read = stx :: wire ++ [etx] := by
  obtain ⟨rest, heard⟩ := first
  obtain ⟨read, split, bytes⟩ := (listenTo_spec gap hearBurst {} bus.now bus.queue).2
  have audible : NodeBus.audible gap bus.now bus.queue = stx :: wire ++ [etx] ++ rest := heard.symm
  rw [audible, hearAll_hearBurst_whole stands short, List.take_left] at bytes
  exact ⟨read, by rw [collectBurst_left, ← split], bytes⟩

end Frames

end Controller

end NodeBus
