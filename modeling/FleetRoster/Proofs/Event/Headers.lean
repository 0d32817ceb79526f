import FleetRoster.Event.Identity
import FleetRoster.Proofs.Text.Flaws

/-!
# What identity headers say

It makes no difference in which alphabet a header is written, nor which blanks stand around it, and
a text that is no canonical form in one alphabet is refused before anything of it is read. So the
organization that a header names is that of the bytes of which it is the form.
-/

namespace FleetRoster

open Text (IsSetOff)
open Text.Base64 (Alphabet IsFlawed encode)

/-! ## Headers -/

namespace Identity

variable {alphabet : Alphabet} {bytes : List UInt8} {header : String}

theorem ofBytes_error {why : Fault} (failed : ofBytes bytes = .error why) :
    ∃ reason, why = .identity reason := by
  unfold ofBytes at failed
  split at failed
  · contradiction
  · cases failed
    exact ⟨_, rfl⟩

/-- The bytes of a header are those of which it is the canonical form. -/
theorem ofHeader_of_isSetOff (form : IsSetOff (encode alphabet bytes) header) :
    ofHeader header = ofBytes bytes := by
  have trimmed : Text.trim header = encode alphabet bytes :=
    (Text.trim_eq_iff fun _ => Text.Base64.isBlank_of_mem_encode).mpr form
  rw [ofHeader, trimmed, Text.Base64.decodeEither_eq_ok_iff.mpr ⟨alphabet, rfl⟩]

/-- What a text with a flaw says is not even looked at. -/
theorem ofHeader_of_isFlawed (flawed : IsFlawed (Text.trim header)) :
    ∃ why : Text.Base64.DecodeError,
      ofHeader header = .error (.identity ("base64: " ++ why.message)) := by
  rw [ofHeader]
  cases decoded : Text.Base64.decodeEither (Text.encodeBytes (Text.trim header)) with
  | ok bytes =>
      obtain ⟨alphabet, form⟩ := Text.Base64.decodeEither_eq_ok_iff.mp decoded
      exact absurd form (Text.Base64.isFlawed_iff.mp flawed alphabet bytes)
  | error why => exact ⟨why, rfl⟩

/-- A header has a flaw, but for its blanks, exactly if it is no canonical form. -/
theorem isFlawed_trim_iff : IsFlawed (Text.trim header) ↔
    ∀ alphabet bytes, ¬ IsSetOff (encode alphabet bytes) header := by
  simp only [← Text.trim_eq_iff fun _ => Text.Base64.isBlank_of_mem_encode,
    Text.Base64.isFlawed_iff]

end Identity

/-- What headers are read as. -/
structure HeadersRead : Prop where
  /-- The canonical form of bytes, in either alphabet and with blanks around it or without, is read
  as the bytes. -/
  read {alphabet : Alphabet} {bytes : List UInt8} {header : String}
    (form : IsSetOff (encode alphabet bytes) header) :
    Identity.ofHeader header = Identity.ofBytes bytes
  /-- Every other header is refused before that. -/
  refused {header : String}
    (formless : ∀ alphabet bytes, ¬ IsSetOff (encode alphabet bytes) header) :
    ∃ why : Text.Base64.DecodeError,
      Identity.ofHeader header = .error (.identity ("base64: " ++ why.message))
  /-- The others are those with a flaw. -/
  flawed {header : String} :
    (∀ alphabet bytes, ¬ IsSetOff (encode alphabet bytes) header) ↔ IsFlawed (Text.trim header)
  /-- Where bytes give no identity, that is the fault. -/
  faults {bytes : List UInt8} {why : Fault} (failed : Identity.ofBytes bytes = .error why) :
    ∃ reason, why = .identity reason

theorem headersRead : HeadersRead where
  read := Identity.ofHeader_of_isSetOff
  refused formless := Identity.ofHeader_of_isFlawed (Identity.isFlawed_trim_iff.mpr formless)
  flawed := Identity.isFlawed_trim_iff.symm
  faults := Identity.ofBytes_error

/-! ## The organization of an upload -/

theorem nonEmpty_eq_none_iff {text : Option String} :
    nonEmpty text = none ↔ text = none ∨ text = some "" := by
  cases text with
  | none => simp [nonEmpty]
  | some s => simp [nonEmpty, Option.filter_some]

namespace HostEvent

/-- The header of an event names no organization. -/
inductive Unheaded (event : HostEvent) : Prop
  | absent (absent : event.identity = none)
  | undecodable {header : String} {why : Fault} (isHeader : event.identity = some header)
      (failed : Identity.ofHeader header = .error why)
  | nameless {header : String} {identity : Identity} (isHeader : event.identity = some header)
      (decoded : Identity.ofHeader header = .ok identity)
      (unnamed : identity.orgId = none ∨ identity.orgId = some "")

variable {event : HostEvent} {host : Host} {org : String}

theorem organization_of_own (own : nonEmpty host.orgId = some org) :
    event.organization host = .ok org := by
  rw [organization, own]

section

variable (unowned : nonEmpty host.orgId = none)

include unowned

/-- Where the host names no organization, the one that the header names is found. -/
theorem organization_of_header {header : String} {identity : Identity}
    (isHeader : event.identity = some header) (decoded : Identity.ofHeader header = .ok identity)
    (named : nonEmpty identity.orgId = some org) : event.organization host = .ok org := by
  rw [organization, unowned, isHeader]
  dsimp only
  rw [decoded]
  dsimp only
  rw [Identity.organization, named]

/-- Where the host names no organization, none is found if the header names none. -/
theorem organization_of_unheaded (unheaded : event.Unheaded) :
    ∃ why, event.organization host = .error why := by
  rw [organization, unowned]
  cases unheaded with
  | absent absent =>
      rw [absent]
      exact ⟨_, rfl⟩
  | undecodable isHeader failed =>
      rw [isHeader]
      dsimp only
      rw [failed]
      exact ⟨_, rfl⟩
  | nameless isHeader decoded unnamed =>
      rw [isHeader]
      dsimp only
      rw [decoded]
      dsimp only
      rw [Identity.organization, nonEmpty_eq_none_iff.mpr unnamed]
      exact ⟨_, rfl⟩

/-- An organization is found where the header does not fail to name one. -/
theorem exists_organization (headed : ¬ event.Unheaded) :
    ∃ org, event.organization host = .ok org := by
  rw [organization, unowned]
  cases isHeader : event.identity with
  | none => exact absurd (.absent isHeader) headed
  | some header =>
      dsimp only
      cases decoded : Identity.ofHeader header with
      | error why => exact absurd (.undecodable isHeader decoded) headed
      | ok identity =>
          dsimp only
          rw [Identity.organization]
          cases named : nonEmpty identity.orgId with
          | none => exact absurd (.nameless isHeader decoded (nonEmpty_eq_none_iff.mp named)) headed
          | some org => exact ⟨org, rfl⟩

end

end HostEvent

end FleetRoster
