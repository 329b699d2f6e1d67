import Mathlib.Data.UInt

/-!
# The AGPS status of two versions of the HAL

`AGnss::statusCb` tells the versions of `AGpsStatus` apart by their size. The full one has a socket
address, the older one, `AGpsStatus_v2`, an IPv4 address in host order.

* `statusCb`: the callbacks of the client that a status makes.
* `length_statusCb_le`, `statusCb_of_small`, `statusCb_of_unknown_family`: at most one callback, and
  when there is none.
* `agps_versions_agree_iff`: the types for which the two versions agree. The branch of the older one
  sends the address family in the place of the type.
-/

namespace BlueCommon

namespace Gnss

/-- `AF_INET`. -/
def afInet : UInt16 := 2

/-- `AF_INET6`. -/
def afInet6 : UInt16 := 10

/-- `sockaddr_storage`, with the address that it has as a `sockaddr_in` and as a `sockaddr_in6`. -/
structure SockaddrStorage where
  ss_family : UInt16
  sin_addr : UInt32
  sin6_addr : Vector UInt8 16

/-- `AGpsStatus`. An `AGpsStatus_v2` ends before `addr`: what is read there is what follows it. -/
structure AGpsStatus where
  size : ℕ
  type : UInt16
  status : UInt16
  ipaddr : UInt32
  addr : SockaddrStorage

/-- `sizeof(AGpsStatus)` and `sizeof(AGpsStatus_v2)`. The code tells the two versions apart by the
size that the HAL has written into the record, so the older one must be smaller. -/
structure StatusSizes where
  agpsStatus : ℕ
  agpsStatusV2 : ℕ
  smaller : agpsStatusV2 < agpsStatus

/-- `IAGnssCallback::AGnssStatusIpV4`, the argument of the callback for an IPv4 address. The
enumerations have eight bits there. -/
structure AGnssStatusIpV4 where
  type : UInt8
  status : UInt8
  ipV4Addr : UInt32
  deriving DecidableEq

/-- `IAGnssCallback::AGnssStatusIpV6`, the argument of the callback for an IPv6 address. -/
structure AGnssStatusIpV6 where
  type : UInt8
  status : UInt8
  ipV6Addr : Vector UInt8 16
  deriving DecidableEq

/-- The calls of `IAGnssCallback`. -/
inductive AGnssCallback
  | agnssStatusIpV4Cb (status : AGnssStatusIpV4)
  | agnssStatusIpV6Cb (status : AGnssStatusIpV6)
  deriving DecidableEq

/-- `htonl`, on a little-endian host. -/
def htonl (n : UInt32) : UInt32 :=
  let mask : UInt32 := 0xff00
  (n <<< 24) ||| ((n &&& mask) <<< 8) ||| ((n >>> 8) &&& mask) ||| (n >>> 24)

/-- `AGnss::statusCb`: the calls of the client, if one has been set. -/
def statusCb (sizes : StatusSizes) (sAGnssCbIface : Bool) (status : Option AGpsStatus) :
    List AGnssCallback :=
  if !sAGnssCbIface then []
  else match status with
    | none => []
    | some status =>
      if status.size = sizes.agpsStatus then
        if status.addr.ss_family = afInet then
          [.agnssStatusIpV4Cb ⟨status.type.toUInt8, status.status.toUInt8, status.addr.sin_addr⟩]
        else if status.addr.ss_family = afInet6 then
          [.agnssStatusIpV6Cb ⟨status.type.toUInt8, status.status.toUInt8, status.addr.sin6_addr⟩]
        else []
      else if sizes.agpsStatusV2 ≤ status.size then
        -- the type is the address family
        [.agnssStatusIpV4Cb ⟨afInet.toUInt8, status.status.toUInt8, htonl status.ipaddr⟩]
      else []

section Status

variable {sizes : StatusSizes} {s : AGpsStatus}

/-! ### At most one callback -/

theorem length_statusCb_le (sizes : StatusSizes) (sAGnssCbIface : Bool)
    (status : Option AGpsStatus) : (statusCb sizes sAGnssCbIface status).length ≤ 1 := by
  -- each branch ends in one call or in none
  unfold statusCb
  split
  · exact Nat.zero_le 1
  cases status with
  | none => exact Nat.zero_le 1
  | some s =>
    dsimp only
    split
    · split
      · exact Nat.le_refl 1
      split
      · exact Nat.le_refl 1
      · exact Nat.zero_le 1
    · split
      · exact Nat.le_refl 1
      · exact Nat.zero_le 1

/-- A status that is smaller than the older version is ignored. -/
theorem statusCb_of_small (sAGnssCbIface : Bool) (h : s.size < sizes.agpsStatusV2) :
    statusCb sizes sAGnssCbIface (some s) = [] := by
  have hfull : s.size ≠ sizes.agpsStatus := Nat.ne_of_lt (h.trans sizes.smaller)
  unfold statusCb
  dsimp only
  rw [if_neg hfull, if_neg (Nat.not_le.mpr h), ite_self]

/-- A socket address of another family is ignored. -/
theorem statusCb_of_unknown_family (sAGnssCbIface : Bool) (hsize : s.size = sizes.agpsStatus)
    (h4 : s.addr.ss_family ≠ afInet) (h6 : s.addr.ss_family ≠ afInet6) :
    statusCb sizes sAGnssCbIface (some s) = [] := by
  unfold statusCb
  dsimp only
  rw [if_pos hsize, if_neg h4, if_neg h6, ite_self]

/-! ### The two versions -/

/-- A full status with an IPv4 address in network order. -/
structure IsFull (sizes : StatusSizes) (type status : UInt16) (address : UInt32) (s : AGpsStatus) :
    Prop where
  size : s.size = sizes.agpsStatus
  type : s.type = type
  status : s.status = status
  family : s.addr.ss_family = afInet
  address : s.addr.sin_addr = htonl address

/-- An older status with the address in host order. -/
structure IsV2 (sizes : StatusSizes) (type status : UInt16) (address : UInt32) (s : AGpsStatus) :
    Prop where
  size : s.size = sizes.agpsStatusV2
  type : s.type = type
  status : s.status = status
  address : s.ipaddr = address

theorem statusCb_full {type status : UInt16} {address : UInt32}
    (h : IsFull sizes type status address s) :
    statusCb sizes true (some s) =
      [.agnssStatusIpV4Cb ⟨type.toUInt8, status.toUInt8, htonl address⟩] := by
  unfold statusCb
  dsimp only
  rw [if_neg (by decide), if_pos h.size, if_pos h.family, h.type, h.status, h.address]

theorem statusCb_v2 {type status : UInt16} {address : UInt32}
    (h : IsV2 sizes type status address s) :
    statusCb sizes true (some s) =
      [.agnssStatusIpV4Cb ⟨afInet.toUInt8, status.toUInt8, htonl address⟩] := by
  have hfull : s.size ≠ sizes.agpsStatus := h.size ▸ Nat.ne_of_lt sizes.smaller
  unfold statusCb
  dsimp only
  rw [if_neg (by decide), if_neg hfull, if_pos (Nat.le_of_eq h.size.symm), h.status, h.address]

example : htonl 0x7f000001 = 0x0100007f := by decide

/-- Both versions of a status send the same argument: a full record with the address in network
order, and an older one with the same address in host order. -/
def VersionsAgree (sizes : StatusSizes) (type status : UInt16) (address : UInt32) : Prop :=
  ∀ full v2, IsFull sizes type status address full → IsV2 sizes type status address v2 →
    ∃ argument, statusCb sizes true (some full) = [.agnssStatusIpV4Cb argument] ∧
      statusCb sizes true (some v2) = [.agnssStatusIpV4Cb argument]

/-- Every status makes at most one callback, and an invalid one none: one that is too small for
either version, or of the full size with an address of another family. -/
def AtMostOneCallback (sizes : StatusSizes) : Prop :=
  (∀ sAGnssCbIface status, (statusCb sizes sAGnssCbIface status).length ≤ 1) ∧
  (∀ sAGnssCbIface s, s.size < sizes.agpsStatusV2 →
    statusCb sizes sAGnssCbIface (some s) = []) ∧
  ∀ sAGnssCbIface s, s.size = sizes.agpsStatus → s.addr.ss_family ≠ afInet →
    s.addr.ss_family ≠ afInet6 → statusCb sizes sAGnssCbIface (some s) = []

theorem atMostOneCallback (sizes : StatusSizes) : AtMostOneCallback sizes :=
  ⟨length_statusCb_le sizes, fun i _ h => statusCb_of_small i h,
    fun i _ hsize h4 h6 => statusCb_of_unknown_family i hsize h4 h6⟩

theorem versionsAgree_iff {type status : UInt16} {address : UInt32} :
    VersionsAgree sizes type status address ↔ type.toUInt8 = 2 := by
  constructor
  · intro h
    -- one status of each version, with the same address
    let addr : SockaddrStorage := ⟨afInet, htonl address, Vector.replicate 16 0⟩
    have full : IsFull sizes type status address ⟨sizes.agpsStatus, type, status, 0, addr⟩ :=
      ⟨rfl, rfl, rfl, rfl, rfl⟩
    have v2 : IsV2 sizes type status address ⟨sizes.agpsStatusV2, type, status, address, addr⟩ :=
      ⟨rfl, rfl, rfl, rfl⟩
    obtain ⟨argument, hfull, hv2⟩ := h _ _ full v2
    rw [statusCb_full full] at hfull
    rw [statusCb_v2 v2, ← hfull] at hv2
    injection hv2 with hcall
    injection hcall with hargument
    -- the old version always reports the type, the new one its own constant
    exact (congrArg AGnssStatusIpV4.type hargument).symm
  · intro htype full v2 hfull hv2
    refine ⟨_, statusCb_full hfull, ?_⟩
    rw [htype]
    exact statusCb_v2 hv2

/-- **When the two versions agree**: for the one type whose number is that of `AF_INET`. The older
record has no address family, and the code takes its type for one; so for any other type the client
hears nothing of it. -/
theorem agps_versions_agree_iff (sizes : StatusSizes) (type status : UInt16) (address : UInt32) :
    VersionsAgree sizes type status address ∧ AtMostOneCallback sizes ↔ type.toUInt8 = 2 := by
  rw [versionsAgree_iff]
  exact and_iff_left (atMostOneCallback sizes)

/-- With the type 1, for SUPL, the older version sends the type 2. -/
theorem agps_versions_differ :
    ¬ ∀ sizes type status address,
      VersionsAgree sizes type status address ∧ AtMostOneCallback sizes := by
  intro h
  have htype := versionsAgree_iff.mp (h ⟨144, 16, by decide⟩ 1 0 0).1
  revert htype
  decide

end Status

end Gnss

end BlueCommon
