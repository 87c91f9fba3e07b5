import CastLaunch.Discovery.Advertiser
import CastLaunch.Proofs.Identifier.Forms

/-!
The names under which services are advertised, and what they give away of the identifier.  A name ends in the type of
its service, and the name of the primary service begins with the packed identifier and an at sign.  The packed form is
always of the same length, so the name falls apart in one way only, whatever the registrar is called.
-/

namespace CastLaunch
open CastLaunch.Text

/-- The names end in their types, which differ from the thirteenth letter from behind on. -/
theorem Service.eq_of_instanceName_eq {n m : String} {d e : DeviceIdentifier} {j k : Service}
    (same : j.instanceName n d = k.instanceName m e) : j = k := by
  have ending (k : Service) (n : String) (d : DeviceIdentifier) :
      (k.instanceName n d).toList.reverse[12]? = k.recordType.toList.reverse[12]? := by
    have long : 12 < k.recordType.toList.reverse.length := by cases k <;> decide
    cases k <;> simp only [instanceName, String.toList_append, List.reverse_append] <;>
      exact List.getElem?_append_left long
  have letters : j.recordType.toList.reverse[12]? = k.recordType.toList.reverse[12]? := by
    rw [← ending j n d, ← ending k m e, same]
  cases j <;> cases k <;> first | rfl | exact absurd letters (by decide)

theorem Service.raop_instanceName_eq_iff {n m : String} {d e : DeviceIdentifier} :
    raop.instanceName n d = raop.instanceName m e ↔ n = m ∧ d = e := by
  have parts (n : String) (d : DeviceIdentifier) : (raop.instanceName n d).toList =
      d.packed.toList ++ ('@' :: n.toList ++ ("." ++ raop.recordType).toList) := by
    simp [instanceName, String.toList_append]
  constructor
  · intro same
    have split := congrArg String.toList same
    rw [parts, parts] at split
    obtain ⟨packed, behind⟩ := List.append_inj split (by rw [d.length_packed, e.length_packed])
    have names := List.append_cancel_right behind
    exact ⟨String.toList_inj.mp (List.cons.inj names).2, DeviceIdentifier.packed_injective (String.toList_inj.mp packed)⟩
  · rintro ⟨rfl, rfl⟩
    rfl

namespace Advertiser

/-- What the registrar advertises the service as. -/
def instanceName (a : Advertiser) (k : Service) : String := k.instanceName a.name a.identifier

/-- A record says what its service says of the registrar. -/
theorem of_record {w : World} {a : Advertiser} {k : Service} {port : Int} {r : ServiceRecord}
    (made : record w a k port = .ok r) : r.name = a.instanceName k ∧ r.properties = k.properties a.identifier := by
  unfold record at made
  split at made
  · cases made
  · split at made
    · cases made
    · cases made
      exact ⟨rfl, rfl⟩

/-- Each form in which an identifier is written or advertised leads back to it, and the name of the primary service to
the name of its registrar besides. -/
theorem forms_decode (a b : Advertiser) :
    DeviceIdentifier.parse a.identifier.written = .ok a.identifier ∧
      (∀ text, DeviceIdentifier.Shows text a.identifier → DeviceIdentifier.parse text = .ok a.identifier) ∧
      (∀ w port r, record w a .airplay port = .ok r →
        ∃ text, r.properties.lookup "deviceid" = some text ∧ DeviceIdentifier.parse text = .ok a.identifier) ∧
      (∃ digits, a.instanceName .raop = digits ++ "@" ++ a.name ++ "." ++ Service.raop.recordType ∧
        digits.toList.length = 12 ∧ (∀ c ∈ digits.toList, DeviceIdentifier.IsUpperHexDigit c) ∧
        DeviceIdentifier.unpack? digits.toList = some a.identifier.toBytes) ∧
      (a.instanceName .raop = b.instanceName .raop ↔ a.name = b.name ∧ a.identifier = b.identifier) ∧
      a.instanceName .raop ≠ b.instanceName .airplay := by
  refine ⟨DeviceIdentifier.parse_of_shows a.identifier.shows_written, fun _ => DeviceIdentifier.parse_of_shows, ?_, ?_,
    Service.raop_instanceName_eq_iff, fun same => nomatch Service.eq_of_instanceName_eq same⟩
  · intro w port r made
    refine ⟨Service.upperIdentifier a.identifier, ?_, ?_⟩
    · rw [(of_record made).2]
      rfl
    · exact DeviceIdentifier.parse_of_shows a.identifier.shows_upperIdentifier
  · have upper : ∀ c ∈ a.identifier.packed.toList, DeviceIdentifier.IsUpperHexDigit c := by
      rw [DeviceIdentifier.packed, String.toList_ofList]
      exact DeviceIdentifier.upperHexDigits_pairs a.identifier.octets
    exact ⟨a.identifier.packed, rfl, a.identifier.length_packed, upper, a.identifier.unpack?_packed⟩

end Advertiser

end CastLaunch
