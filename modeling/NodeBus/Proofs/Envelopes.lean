import NodeBus.Envelope.Layout
import NodeBus.Proofs.CodecFormats

/-!
# Envelopes

The format of requests and responses, and what envelopes do with them. Every message fits its envelope and is
found again in it (`envelopes_round_trip`). Whatever bytes arrive, a message is found exactly where one is
spelled at their front (`envelopes_open`).
-/
namespace NodeBus

/-- The address, the command, the parameters and the status. -/
def Packet.format : Format Packet :=
  let bytes := Format.bounded maxParams .byte
  (Format.byte.pair (Format.byte.pair (bytes.pair bytes))).map
    fun (address, command, params, status) => { address, command, params, status }

/-- The bytes to write, their budget, the number of bytes to read, and the budget of each. -/
def RawRequest.format : Format RawRequest :=
  ((Format.bounded maxRaw .byte).pair (Format.word32.pair (Format.byte.pair .word32))).map
    fun (tx, txTimeout, expect, rxTimeout) => { tx, txTimeout, expect, rxTimeout }

/-- The address, the type and the firmware level. -/
def NodeInfo.format : Format NodeInfo :=
  (Format.byte.pair (Format.word16.pair .word16)).map
    fun (address, nodeType, firmware) => { address, nodeType, firmware }

/-- The version and the limits. -/
def DaemonInfo.format : Format DaemonInfo :=
  ((Format.text NodeBus.maxVersion).pair
    (Format.word16.pair (Format.word16.pair (Format.byte.pair .byte)))).map
    fun (version, protocol, envelopeSize, maxParams, maxRaw) =>
      { version, protocol, envelopeSize, maxParams, maxRaw }

/-- The eight counters. -/
def Statistics.format : Format Statistics :=
  let word := Format.word32
  (word.pair (word.pair (word.pair (word.pair (word.pair (word.pair (word.pair word))))))).map
    fun (roundTrips, spuriousPackets, rxTimeouts, txTimeouts, crcErrors, framingErrors, formatErrors, naks) =>
      { roundTrips, spuriousPackets, rxTimeouts, txTimeouts, crcErrors, framingErrors, formatErrors, naks }

/-- A status is its number. -/
def Status.format : Format Status := .kinds fun kind => (Status.ofCode? kind).map .just

/-- What follows the number of a kind of request. -/
def Request.fields : Nat → Option (Format Request)
  | 0 => some (.just .daemonInfo)
  | 1 => some (Packet.format.map .sendPacket)
  | 2 => some (.just .scan)
  | 3 => some (.just .statistics)
  | 4 => some (.just .takeStatistics)
  | 5 => some ((Format.text maxHelperCommand).map .helper)
  | 6 => some (RawRequest.format.map .raw)
  | _ => none

def Request.format : Format Request := .kinds Request.fields

/-- What follows the number of a kind of data. -/
def ResponseBody.fields : Nat → Option (Format ResponseBody)
  | 0 => some (.just .empty)
  | 1 => some (DaemonInfo.format.map .daemonInfo)
  | 2 => some (Packet.format.map .packet)
  | 3 => some ((Format.bounded maxScan NodeInfo.format).map .nodes)
  | 4 => some (Statistics.format.map .statistics)
  | 5 => some ((Format.bounded maxRaw .byte).map .raw)
  | _ => none

def ResponseBody.format : Format ResponseBody := .kinds ResponseBody.fields

/-- The status and the data. -/
def Response.format : Format Response :=
  (Status.format.pair ResponseBody.format).map fun (status, body) => { status, body }

/-! ### Records -/

theorem Packet.codec_meets : Packet.codec.Meets Packet.format 54 :=
  have bytes : (Codec.bounded maxParams Codec.byte).Meets _ _ := Codec.byte_meets.bounded (by decide)
  (Codec.byte_meets.pair (Codec.byte_meets.pair (bytes.pair bytes))).map (fun _ => rfl) fun _ => rfl

theorem RawRequest.codec_meets : RawRequest.codec.Meets RawRequest.format 85 :=
  have bytes : (Codec.bounded maxRaw Codec.byte).Meets _ _ := Codec.byte_meets.bounded (by decide)
  (bytes.pair (Codec.word32_meets.pair (Codec.byte_meets.pair Codec.word32_meets))).map
    (fun _ => rfl) fun _ => rfl

theorem NodeInfo.codec_meets : NodeInfo.codec.Meets NodeInfo.format 7 :=
  (Codec.byte_meets.pair (Codec.word16_meets.pair Codec.word16_meets)).map (fun _ => rfl) fun _ => rfl

theorem DaemonInfo.codec_meets : DaemonInfo.codec.Meets DaemonInfo.format 34 :=
  ((Codec.text_meets (by decide)).pair (Codec.word16_meets.pair
    (Codec.word16_meets.pair (Codec.byte_meets.pair Codec.byte_meets)))).map (fun _ => rfl) fun _ => rfl

theorem Statistics.codec_meets : Statistics.codec.Meets Statistics.format 40 :=
  have word := Codec.word32_meets
  (word.pair (word.pair (word.pair (word.pair (word.pair (word.pair (word.pair word))))))).map
    (fun _ => rfl) fun _ => rfl

/-- The command of a request for the helper. -/
theorem Request.command_meets : (Codec.text maxHelperCommand).Meets (.text maxHelperCommand) 73 :=
  Codec.text_meets (by decide)

/-- The nodes that a scan found. -/
theorem ResponseBody.nodes_meet :
    (Codec.bounded maxScan NodeInfo.codec).Meets (.bounded maxScan NodeInfo.format) 1795 :=
  NodeInfo.codec_meets.bounded (by decide)

/-- The bytes that a raw exchange read. -/
theorem ResponseBody.raw_meets : (Codec.bounded maxRaw Codec.byte).Meets (.bounded maxRaw .byte) 74 :=
  Codec.byte_meets.bounded (by decide)

/-! ### Status -/

theorem Status.ofCode?_eq_some {code : Nat} {status : Status} (known : Status.ofCode? code = some status) :
    status.code.toNat = code := by
  have inTable : code < 12 := (List.getElem?_eq_some_iff.mp known).1
  interval_cases code <;> cases known <;> rfl

theorem Status.ofCode?_code (status : Status) : Status.ofCode? status.code.toNat = some status := by
  cases status <;> rfl

theorem Status.codec_follows : Status.codec.Follows Status.format := by
  apply Codec.follows_kinds
  · intro input untagged
    simp only [Status.codec, untagged]
  · intro input kind rest tagged unknown
    simp only [Status.codec, tagged, Option.map_eq_none_iff.mp unknown, Option.map_none]
  · intro kind format known
    obtain ⟨status, isStatus, rfl⟩ := Option.map_eq_some_iff.mp known
    apply Codec.FollowsBehind.just
    · intro input rest tagged
      simp only [Status.codec, tagged, isStatus, Option.map_some]
    · simp only [Status.codec, Status.ofCode?_eq_some isStatus]

theorem Status.codec_writes : Status.codec.Writes Status.format := by
  apply Codec.writes_kinds
  intro status
  have fits : status.code.toNat < Codec.Width.word32.count :=
    Nat.lt_trans status.code.toNat_lt (by decide)
  refine ⟨_, .just status, [], fits, ?_, ⟨rfl, rfl⟩, (List.append_nil _).symm⟩
  rw [Status.ofCode?_code, Option.map_some]

theorem Status.codec_meets : Status.codec.Meets Status.format 5 :=
  ⟨Status.codec_follows, Status.codec_writes, fun _ => Codec.tag_length _⟩

/-! ### Requests -/

theorem Request.codec_follows : Request.codec.Follows Request.format := by
  apply Codec.follows_kinds
  · intro input untagged
    simp only [Request.codec, untagged]
  · intro input kind rest tagged unknown
    simp only [Request.codec, tagged]
    split <;> simp_all [Request.fields]
  · intro kind format known
    match kind, known with
    | 0, rfl => exact .just (fun tagged => by simp only [Request.codec, tagged]) rfl
    | 1, rfl =>
      apply Codec.FollowsBehind.map Packet.codec_meets.follows
      · intro input rest tagged
        simp only [Request.codec, tagged]
      · exact fun _ => rfl
    | 2, rfl => exact .just (fun tagged => by simp only [Request.codec, tagged]) rfl
    | 3, rfl => exact .just (fun tagged => by simp only [Request.codec, tagged]) rfl
    | 4, rfl => exact .just (fun tagged => by simp only [Request.codec, tagged]) rfl
    | 5, rfl =>
      apply Codec.FollowsBehind.map Request.command_meets.follows
      · intro input rest tagged
        simp only [Request.codec, tagged]
      · exact fun _ => rfl
    | 6, rfl =>
      apply Codec.FollowsBehind.map RawRequest.codec_meets.follows
      · intro input rest tagged
        simp only [Request.codec, tagged]
      · exact fun _ => rfl

theorem Request.codec_writes : Request.codec.Writes Request.format := by
  apply Codec.writes_kinds
  intro request
  cases request with
  | daemonInfo => exact ⟨0, _, [], by decide, rfl, ⟨rfl, rfl⟩, rfl⟩
  | sendPacket packet => exact ⟨1, _, _, by decide, rfl, ⟨packet, rfl, Packet.codec_meets.writes packet⟩, rfl⟩
  | scan => exact ⟨2, _, [], by decide, rfl, ⟨rfl, rfl⟩, rfl⟩
  | statistics => exact ⟨3, _, [], by decide, rfl, ⟨rfl, rfl⟩, rfl⟩
  | takeStatistics => exact ⟨4, _, [], by decide, rfl, ⟨rfl, rfl⟩, rfl⟩
  | helper command =>
    exact ⟨5, _, _, by decide, rfl, ⟨command, rfl, Request.command_meets.writes command⟩, rfl⟩
  | raw request => exact ⟨6, _, _, by decide, rfl, ⟨request, rfl, RawRequest.codec_meets.writes request⟩, rfl⟩

theorem Request.codec_atMost : Request.codec.AtMost 90 := by
  intro request
  cases request with
  | daemonInfo => exact (Codec.tag_length 0).trans (by decide)
  | sendPacket packet => exact (Codec.tagged_length 1 (Packet.codec_meets.atMost packet)).trans (by decide)
  | scan => exact (Codec.tag_length 2).trans (by decide)
  | statistics => exact (Codec.tag_length 3).trans (by decide)
  | takeStatistics => exact (Codec.tag_length 4).trans (by decide)
  | helper command => exact (Codec.tagged_length 5 (Request.command_meets.atMost command)).trans (by decide)
  | raw request => exact (Codec.tagged_length 6 (RawRequest.codec_meets.atMost request)).trans (by decide)

theorem Request.codec_meets : Request.codec.Meets Request.format 90 :=
  ⟨Request.codec_follows, Request.codec_writes, Request.codec_atMost⟩

/-! ### Responses -/

theorem ResponseBody.codec_follows : ResponseBody.codec.Follows ResponseBody.format := by
  apply Codec.follows_kinds
  · intro input untagged
    simp only [ResponseBody.codec, untagged]
  · intro input kind rest tagged unknown
    simp only [ResponseBody.codec, tagged]
    split <;> simp_all [ResponseBody.fields]
  · intro kind format known
    match kind, known with
    | 0, rfl => exact .just (fun tagged => by simp only [ResponseBody.codec, tagged]) rfl
    | 1, rfl =>
      apply Codec.FollowsBehind.map DaemonInfo.codec_meets.follows
      · intro input rest tagged
        simp only [ResponseBody.codec, tagged]
      · exact fun _ => rfl
    | 2, rfl =>
      apply Codec.FollowsBehind.map Packet.codec_meets.follows
      · intro input rest tagged
        simp only [ResponseBody.codec, tagged]
      · exact fun _ => rfl
    | 3, rfl =>
      apply Codec.FollowsBehind.map ResponseBody.nodes_meet.follows
      · intro input rest tagged
        simp only [ResponseBody.codec, tagged]
      · exact fun _ => rfl
    | 4, rfl =>
      apply Codec.FollowsBehind.map Statistics.codec_meets.follows
      · intro input rest tagged
        simp only [ResponseBody.codec, tagged]
      · exact fun _ => rfl
    | 5, rfl =>
      apply Codec.FollowsBehind.map ResponseBody.raw_meets.follows
      · intro input rest tagged
        simp only [ResponseBody.codec, tagged]
      · exact fun _ => rfl

theorem ResponseBody.codec_writes : ResponseBody.codec.Writes ResponseBody.format := by
  apply Codec.writes_kinds
  intro body
  cases body with
  | empty => exact ⟨0, _, [], by decide, rfl, ⟨rfl, rfl⟩, rfl⟩
  | daemonInfo info => exact ⟨1, _, _, by decide, rfl, ⟨info, rfl, DaemonInfo.codec_meets.writes info⟩, rfl⟩
  | packet sent => exact ⟨2, _, _, by decide, rfl, ⟨sent, rfl, Packet.codec_meets.writes sent⟩, rfl⟩
  | nodes found =>
    exact ⟨3, _, _, by decide, rfl, ⟨found, rfl, ResponseBody.nodes_meet.writes found⟩, rfl⟩
  | statistics counters =>
    exact ⟨4, _, _, by decide, rfl, ⟨counters, rfl, Statistics.codec_meets.writes counters⟩, rfl⟩
  | raw received =>
    exact ⟨5, _, _, by decide, rfl, ⟨received, rfl, ResponseBody.raw_meets.writes received⟩, rfl⟩

/-- A scan that found as many nodes as can be reported has the longest data. -/
theorem ResponseBody.codec_atMost : ResponseBody.codec.AtMost 1800 := by
  intro body
  cases body with
  | empty => exact (Codec.tag_length 0).trans (by decide)
  | daemonInfo info => exact (Codec.tagged_length 1 (DaemonInfo.codec_meets.atMost info)).trans (by decide)
  | packet sent => exact (Codec.tagged_length 2 (Packet.codec_meets.atMost sent)).trans (by decide)
  | nodes found => exact (Codec.tagged_length 3 (ResponseBody.nodes_meet.atMost found)).trans (by decide)
  | statistics counters => exact (Codec.tagged_length 4 (Statistics.codec_meets.atMost counters)).trans (by decide)
  | raw received => exact (Codec.tagged_length 5 (ResponseBody.raw_meets.atMost received)).trans (by decide)

theorem ResponseBody.codec_meets : ResponseBody.codec.Meets ResponseBody.format 1800 :=
  ⟨ResponseBody.codec_follows, ResponseBody.codec_writes, ResponseBody.codec_atMost⟩

theorem Response.codec_meets : Response.codec.Meets Response.format 1805 :=
  (Status.codec_meets.pair ResponseBody.codec_meets).map (fun _ => rfl) fun _ => rfl

/-! ### Sealing and opening -/

namespace Envelope

variable {α : Type} {codec : Codec α} {format : Format α} {limit : Nat}

/-- An envelope is the message and zeros behind it. -/
theorem seal?_eq_some (meets : codec.Meets format limit) (room : limit ≤ envelopeSize) (message : α) :
    seal? codec message =
      some (codec.encode message ++ List.replicate (envelopeSize - (codec.encode message).length) 0) := by
  unfold seal?
  exact if_pos ((meets.atMost message).trans room)

theorem open?_eq_some_iff (follows : codec.Follows format) {input : List UInt8} {message : α} :
    open? codec input = some message ↔
      ∃ bytes rest, input = bytes ++ rest ∧ format.Spells .free message bytes := by
  unfold open?
  constructor
  · intro opened
    split at opened
    · cases opened
    · rename_i found rest decoded
      obtain rfl := Option.some.inj opened
      obtain ⟨bytes, split, spelled⟩ := (follows.read.eq_some_iff input rest found).mp decoded
      exact ⟨bytes, rest, split, spelled⟩
  · rintro ⟨bytes, rest, rfl, spelled⟩
    simp only [follows.read.reads spelled]

theorem open?_eq_none_iff (follows : codec.Follows format) {input : List UInt8} :
    open? codec input = none ↔ ∃ fault, format.Faulty fault input := by
  rw [← follows.read.eq_none_iff]
  unfold open?
  split <;> simp_all

/-- What is written is found again, whatever stands behind it. -/
theorem open?_encode (meets : codec.Meets format limit) (message : α) (rest : List UInt8) :
    open? codec (codec.encode message ++ rest) = some message :=
  (open?_eq_some_iff meets.follows).mpr ⟨_, rest, rfl, format.relax (meets.writes message)⟩

/-- Every message has an envelope of the fixed size, and is found again in it. -/
structure RoundTrip (codec : Codec α) (format : Format α) : Prop where
  /-- What is written is the shortest spelling of the message. -/
  written : ∀ message, format.Spells .shortest message (codec.encode message)
  /-- The envelope begins with it, and zeros fill it up. -/
  sealed : ∀ message, ∃ envelope, seal? codec message = some envelope ∧ envelope.length = 2048 ∧
    envelope = codec.encode message ++ List.replicate (2048 - (codec.encode message).length) 0
  /-- The envelope gives back the message. -/
  opened : ∀ message envelope, seal? codec message = some envelope → open? codec envelope = some message
  /-- So do the bytes of the message with anything behind them. -/
  refilled : ∀ message rest, open? codec (codec.encode message ++ rest) = some message
  /-- Different messages have different envelopes. -/
  distinct : ∀ first second, seal? codec first = seal? codec second → first = second

theorem RoundTrip.of_meets (meets : codec.Meets format limit) (room : limit ≤ envelopeSize) :
    RoundTrip codec format := by
  have opened : ∀ message envelope, seal? codec message = some envelope →
      open? codec envelope = some message := by
    intro message envelope isSealed
    rw [seal?_eq_some meets room] at isSealed
    obtain rfl := Option.some.inj isSealed
    exact open?_encode meets message _
  refine ⟨meets.writes, ?sealed, opened, open?_encode meets, ?distinct⟩
  case sealed =>
    intro message
    refine ⟨_, seal?_eq_some meets room message, ?_, rfl⟩
    have fits : (codec.encode message).length ≤ 2048 := (meets.atMost message).trans room
    simp only [List.length_append, List.length_replicate, envelopeSize]
    omega
  case distinct =>
    intro first second same
    have firstSealed := seal?_eq_some meets room first
    have firstOpened := opened first _ firstSealed
    have secondOpened := opened second _ (same ▸ firstSealed)
    rw [firstOpened] at secondOpened
    exact Option.some.inj secondOpened

end Envelope

theorem Request.roundTrip : Envelope.RoundTrip Request.codec Request.format :=
  .of_meets Request.codec_meets (by decide)

theorem Response.roundTrip : Envelope.RoundTrip Response.codec Response.format :=
  .of_meets Response.codec_meets (by decide)

/-- **Envelopes round-trip.** Every request and every response fits its envelope and is found again in it. -/
theorem envelopes_round_trip :
    Envelope.RoundTrip Request.codec Request.format ∧ Envelope.RoundTrip Response.codec Response.format :=
  ⟨Request.roundTrip, Response.roundTrip⟩

/-! ### Envelopes from anyone -/

/-- The limits of a packet. -/
def Packet.Within (packet : Packet) : Prop :=
  packet.params.items.length ≤ 16 ∧ packet.status.items.length ≤ 16

/-- A text in UTF-8 of at most so many bytes. -/
def BoundedText.Within {capacity : Nat} (limit : Nat) (held : BoundedText capacity) : Prop :=
  held.text.toByteArray.size ≤ limit ∧ held.text.toByteArray.IsValidUTF8

/-- The limits of a request. -/
def Request.Within : Request → Prop
  | .sendPacket packet => packet.Within
  | .helper command => command.Within 63
  | .raw request => request.tx.items.length ≤ 64
  | .daemonInfo | .scan | .statistics | .takeStatistics => True

/-- The limits of a response. -/
def Response.Within (response : Response) : Prop :=
  match response.body with
  | .packet packet => packet.Within
  | .daemonInfo info => info.version.Within 16
  | .nodes found => found.items.length ≤ 255
  | .raw received => received.items.length ≤ 64
  | .empty | .statistics _ => True

theorem Packet.within (packet : Packet) : packet.Within := ⟨packet.params.fits, packet.status.fits⟩

theorem BoundedText.within {capacity : Nat} (held : BoundedText capacity) : held.Within capacity :=
  ⟨held.fits, held.text.isValidUTF8⟩

theorem Request.within (request : Request) : request.Within := by
  cases request with
  | sendPacket packet => exact packet.within
  | helper command => exact command.within
  | raw request => exact request.tx.fits
  | daemonInfo | scan | statistics | takeStatistics => trivial

theorem Response.within (response : Response) : response.Within := by
  unfold Response.Within
  split
  · apply Packet.within
  · apply BoundedText.within
  · apply Bounded.fits
  · apply Bounded.fits
  · trivial
  · trivial

namespace Envelope

variable {α : Type} {codec : Codec α} {format : Format α} {limit : Nat}

/-- The bytes in which a message was found. -/
structure Consumed (codec : Codec α) (format : Format α) (message : α) (bytes : List UInt8) : Prop where
  spelled : format.Spells .free message bytes
  /-- What follows them does not matter. -/
  behind : ∀ rest, open? codec (bytes ++ rest) = some message
  /-- None of them can be missing. -/
  strict : ∀ shorter more, bytes = shorter ++ more → more ≠ [] → open? codec shorter = none
  /-- They are no fewer than what is written for the message. -/
  least : (codec.encode message).length ≤ bytes.length
  /-- They are what is written, if no number among them is longer than it has to be. -/
  shortest : format.Spells .shortest message bytes → bytes = codec.encode message

/-- What is found in any bytes. -/
structure Opening (codec : Codec α) (format : Format α) (Within : α → Prop) : Prop where
  /-- A message is found where one is spelled, and nowhere else. -/
  accepted : ∀ input message, open? codec input = some message ↔
    ∃ bytes rest, input = bytes ++ rest ∧ format.Spells .free message bytes
  /-- Nothing is found where something is wrong, and nowhere else. -/
  refused : ∀ input, open? codec input = none ↔ ∃ fault, format.Faulty fault input
  /-- A found message keeps its limits. -/
  within : ∀ input message, open? codec input = some message → Within message
  /-- It can be sealed, and is found again. -/
  resealed : ∀ input message, open? codec input = some message →
    ∃ envelope, seal? codec message = some envelope ∧ open? codec envelope = some message
  /-- It was found in the bytes at the front. -/
  consumed : ∀ input message, open? codec input = some message →
    ∃ bytes rest, input = bytes ++ rest ∧ Consumed codec format message bytes

theorem consumed_of_spelled (follows : codec.Follows format) {message : α} {bytes : List UInt8}
    (spelled : format.Spells .free message bytes) : Consumed codec format message bytes where
  spelled
  behind rest := (open?_eq_some_iff follows).mpr ⟨bytes, rest, rfl, spelled⟩
  strict := by
    rintro shorter more rfl more_ne
    unfold open?
    rw [follows.read.eq_none_of_strict spelled more_ne]
  least := follows.written.least spelled
  shortest := follows.written.shortest

theorem Opening.of_meets {Within : α → Prop} (meets : codec.Meets format limit) (room : limit ≤ envelopeSize)
    (within : ∀ message, Within message) : Opening codec format Within where
  accepted _ _ := open?_eq_some_iff meets.follows
  refused _ := open?_eq_none_iff meets.follows
  within _ message _ := within message
  resealed _ message _ := ⟨_, seal?_eq_some meets room message, open?_encode meets message _⟩
  consumed := by
    intro input message opened
    obtain ⟨bytes, rest, split, spelled⟩ := (open?_eq_some_iff meets.follows).mp opened
    exact ⟨bytes, rest, split, consumed_of_spelled meets.follows spelled⟩

end Envelope

/-- **Envelopes from anyone.** Whatever bytes arrive, a request or a response is found in them exactly where one
is spelled at their front. -/
theorem envelopes_open :
    Envelope.Opening Request.codec Request.format Request.Within ∧
      Envelope.Opening Response.codec Response.format Response.Within :=
  ⟨.of_meets Request.codec_meets (by decide) Request.within,
    .of_meets Response.codec_meets (by decide) Response.within⟩

/-- The request to scan, its number spelled with four groups too many. -/
example : Envelope.open? Request.codec [0x82, 0x80, 0x80, 0x80, 0x00, 0xFF] = some .scan := by rfl

end NodeBus
