import FourVrs.Lib.Reads
import FourVrs.Network.DhcpMoves
import FourVrs.Network.DhcpWire

/-!
# The reads of the parsers

`gateway_dhcp_frame` and `gateway_dhcp_receive` once more, as the offsets they read: a read
at or beyond the end of the buffer is `none`, and so is an option loop that goes round more
often than there are bytes. They never are, and what they return is what `dhcpFrame` and
`dhcpReceive` return.
-/

set_option autoImplicit false

namespace FourVrs.Network

open FourVrs.Core Config Lib

/-! ## The frame -/

/-- `word`. -/
def readWord (p : List UInt8) (i : Nat) : Option Nat := do
  let high ← readByte p i
  let low ← readByte p (i + 1)
  some (high.toNat * 256 + low.toNat)

/-- `get32`. -/
def read32 (p : List UInt8) (i : Nat) : Option Nat := (readBytes p i 4).map be32

/-- `sum`. -/
def readSum (p : List UInt8) (i : Nat) : Nat → Nat → Option Nat
  | 0, value => some value
  | 1, value => do
      let byte ← readByte p i
      some (value + byte.toNat * 256)
  | n + 2, value => do
      let word ← readWord p i
      readSum p (i + 2) n (value + word)

/-- The checks of `gateway_dhcp_frame` on the Ethernet header. -/
def readEthernet (d : DhcpClient) (p : List UInt8) : Option Bool := do
  if p.length < 42 ∨ 1514 < p.length then some false
  else
    let kind ← readWord p 12
    if kind ≠ 0x0800 then some false
    else
      let target ← readBytes p 0 6
      if target ≠ d.mac.take 6 ∧ target ≠ broadcastMac then some false
      else
        let source ← readBytes p 6 6
        some (decide (source ≠ d.mac.take 6))

/-- Those on the IPv4 header, which begins at 14: its length, and that of the packet. -/
def readIpv4 (p : List UInt8) : Option (Option (Nat × Nat)) := do
  let first ← readByte p 14
  let header := first.toNat % 16 * 4
  let total ← readWord p 16
  if first.toNat / 16 ≠ 4 ∨ header < 20 ∨ 60 < header ∨ total < header + 8 ∨ p.length - 14 < total then some none
  else
    let protocol ← readByte p 23
    if protocol ≠ 17 then some none
    else
      let fragment ← readWord p 20
      if fragment % 0x4000 ≠ 0 then some none
      else
        let sum ← readSum p 14 header 0
        some (if checksum sum ≠ 0 then none else some (header, total))

/-- Those on the datagram. -/
def readUdp (p : List UInt8) (header total : Nat) : Option Bool := do
  let udp := 14 + header
  let length ← readWord p (udp + 4)
  let source ← readWord p udp
  if source ≠ 67 then some false
  else
    let port ← readWord p (udp + 2)
    if port ≠ 68 ∨ length ≠ total - header then some false
    else
      let pseudo ← readSum p 26 8 (17 + length)
      let given ← readWord p (udp + 6)
      if given = 0 then some true
      else
        let sum ← readSum p udp length pseudo
        some (decide (checksum sum = 0))

/-! ## The message -/

/-- The checks of `gateway_dhcp_receive` on the header of a message. -/
def readHeader (d : DhcpClient) (p : List UInt8) : Option Bool := do
  if p.length < 241 ∨ 1500 < p.length then some false
  else
    let kind ← readBytes p 0 3
    if kind ≠ [2, 1, 6] then some false
    else
      let xid ← read32 p 4
      if xid ≠ d.xid.toNat then some false
      else
        let mac ← readBytes p 28 6
        if mac ≠ d.mac.take 6 then some false
        else
          let cookie ← read32 p 236
          some (decide (cookie = 0x63825363))

/-- The value of an option of `len` bytes at `i`, as far as it is read. -/
def readOption (p : List UInt8) (o : DhcpOptions) (code : UInt8) (i len : Nat) : Option (Option DhcpOptions) :=
  let four (take : Nat → DhcpOptions) : Option (Option DhcpOptions) :=
    if len = 4 then (read32 p i).map (some ∘ take) else some none
  let addresses : Bool := decide (len ≠ 0) && decide (len % 4 = 0)
  let address (n : Nat) : CText := ipv4Format (BitVec.ofNat 32 n)
  match code.toNat with
  | 53 => if len = 1 then (readByte p i).map fun b => some { o with type := b.toNat } else some none
  | 54 => four fun n => { o with server := n }
  | 1 => four fun n => { o with netmask := address n }
  | 3 => if addresses then (read32 p i).map fun n => some { o with gateway := address n } else some none
  | 6 =>
      if addresses then do
        let first ← read32 p i
        let second ← if 8 ≤ len then (read32 p (i + 4)).map address else some (o.dns 1)
        some (some { o with dns := fun k => if k = 0 then address first else second })
      else some none
  | 51 => four fun n => { o with lifetime := n }
  | 58 => four fun n => { o with t1 := n }
  | 59 => four fun n => { o with t2 := n }
  | 33 | 121 | 249 | 52 => some none
  | _ => some (some o)

/-- The option loop, at most `rounds` times. -/
def readOptions (p : List UInt8) : Nat → Nat → DhcpOptions → Option (Option DhcpOptions)
  | 0, off, _ => if off < p.length then none else some none
  | rounds + 1, off, o =>
      if off < p.length then do
        let code ← readByte p off
        if code = 0 then readOptions p rounds (off + 1) o
        else if code = 255 then some (some o)
        else if off + 1 = p.length then some none
        else
          let len ← readByte p (off + 1)
          if len.toNat > p.length - (off + 2) then some none
          else
            match ← readOption p o code (off + 2) len.toNat with
            | none => some none
            | some o' =>
                if dhcpSingle code && o.seen.contains code then some none
                else readOptions p rounds (off + 2 + len.toNat) { o' with seen := code :: o.seen }
      else some none

/-- `gateway_dhcp_receive`. -/
def receiveReads (d : DhcpClient) (p : List UInt8) (now : CoreTick) : Option (Int × DhcpClient) := do
  let forClient ← readHeader d p
  if ¬ forClient ∨ ¬ d.state.listens then some (-1, d)
  else if d.valid && due now d.expiresAt then some (-1, dhcpStep d now true)
  else
    let ip ← read32 p 16
    match ← readOptions p p.length 240 {} with
    | none => some (-1, d)
    | some o => some (dhcpAnswer d ip o now)

/-- `gateway_dhcp_frame`. -/
def frameReads (d : DhcpClient) (p : List UInt8) (now : CoreTick) : Option (Int × DhcpClient) := do
  if ¬ (← readEthernet d p) then some (-1, d)
  else
    match ← readIpv4 p with
    | none => some (-1, d)
    | some (header, total) =>
        if ¬ (← readUdp p header total) then some (-1, d)
        else
          let message ← readWithin p (14 + header + 8) (total - header - 8)
          receiveReads d message now

/-! ## Nothing is read beyond the end -/

section Reads

variable {p : List UInt8} {i n : Nat}

theorem readWord_eq (h : i + 2 ≤ p.length) : readWord p i = some (wordAt p i) := by
  simp [readWord, wordAt, readByte_eq (show i < p.length by omega), readByte_eq (show i + 1 < p.length by omega)]

theorem be32_take (bytes : List UInt8) {n : Nat} (h : 4 ≤ n) : be32 (bytes.take n) = be32 bytes := by
  simp [be32, List.take_take, h]

theorem read32_eq (h : i + 4 ≤ p.length) : read32 p i = some (be32 (p.drop i)) := by
  rw [read32, readBytes_eq h, Option.map_some, be32_take _ (le_refl 4)]

/-- The words of what is read. -/
theorem readSum_eq (h : i + n ≤ p.length) (value : Nat) :
    readSum p i n value = some (wordSum ((p.drop i).take n) value) := by
  induction n using Nat.twoStepInduction generalizing i value with
  | zero => simp [readSum, wordSum]
  | one =>
    have hi : i < p.length := by omega
    rw [readSum, readByte_eq hi, List.drop_eq_getElem_cons hi]
    simp only [Option.bind_eq_bind, Option.bind_some, List.take_succ_cons, List.take_zero, wordSum]
    simp [hi]
  | more n ih =>
    have hi : i < p.length := by omega
    have hnext : i + 1 < p.length := by omega
    have hword : wordAt p i = p[i].toNat * 256 + p[i + 1].toNat := by simp [wordAt, hi, hnext]
    rw [readSum, readWord_eq (by omega), List.drop_eq_getElem_cons hi, List.drop_eq_getElem_cons hnext]
    simp only [Option.bind_eq_bind, Option.bind_some, List.take_succ_cons, wordSum]
    rw [ih (by omega), hword, Nat.add_assoc value]

theorem wordAt_drop (p : List UInt8) (k i : Nat) : wordAt (p.drop k) i = wordAt p (k + i) := by
  simp [wordAt, Nat.add_assoc]

theorem readEthernet_eq (d : DhcpClient) (p : List UInt8) : readEthernet d p = some (frameForClient d p) := by
  unfold readEthernet frameForClient
  split
  · rename_i hlength
    simp only [Option.some.injEq]
    rcases hlength with hshort | hlong
    · simp [Nat.not_le.2 hshort]
    · simp [Nat.not_le.2 hlong]
  · rename_i hlength
    simp only [not_or, Nat.not_lt] at hlength
    rw [readWord_eq (by omega), readBytes_eq (by omega), readBytes_eq (by omega)]
    simp only [Option.bind_eq_bind, Option.bind_some, List.drop_zero, hlength.1, hlength.2, decide_true,
      Bool.true_and]
    split
    · rename_i hkind
      simp [hkind]
    · rename_i hkind
      simp only [not_not] at hkind
      split
      · rename_i htarget
        simp [hkind, htarget.1, htarget.2]
      · rename_i htarget
        have hours : p.take 6 = d.mac.take 6 ∨ p.take 6 = broadcastMac := by
          by_contra hnot
          simp only [not_or] at hnot
          exact htarget hnot
        simp [hkind, hours]

/-- The header of the packet and its total length, when it carries a datagram. -/
theorem readIpv4_eq (h : 42 ≤ p.length) :
    readIpv4 p = some (if carriesUdp (p.drop 14) then
      some (headerLength (p.drop 14), wordAt (p.drop 14) 2) else none) := by
  unfold readIpv4 carriesUdp
  rw [readByte_eq (by omega), readWord_eq (by omega)]
  simp only [headerLength, getD_drop, wordAt_drop, List.length_drop, Option.bind_eq_bind, Option.bind_some,
    Nat.reduceAdd]
  split
  · rename_i hlengths
    rw [if_neg]
    simp only [Bool.and_eq_true, decide_eq_true_eq, not_and]
    omega
  · rename_i hlengths
    simp only [not_or, not_not, Nat.not_lt] at hlengths
    obtain ⟨hversion, hheader, hmost, htotal, hfits⟩ := hlengths
    have hsummed : readSum p 14 ((p.getD 14 0).toNat % 16 * 4) 0 =
        some (wordSum ((p.drop 14).take ((p.getD 14 0).toNat % 16 * 4)) 0) := readSum_eq (by omega) 0
    rw [readByte_eq (by omega), readWord_eq (by omega), hsummed]
    simp only [hversion, hheader, hmost, htotal, hfits, decide_true, Bool.true_and, Option.bind_some]
    generalize p.getD 23 0 = protocol
    generalize wordSum ((p.drop 14).take ((p.getD 14 0).toNat % 16 * 4)) 0 = sum
    by_cases hprotocol : protocol = 17
    · by_cases hfragment : wordAt p 20 % 0x4000 = 0
      · by_cases hsum : checksum sum = 0
        · simp [hprotocol, hfragment, hsum]
        · simp [hprotocol, hfragment, hsum]
      · simp [hprotocol, hfragment]
    · simp [hprotocol]

/-- The datagram lies in the packet, and the packet in the frame. -/
theorem readUdp_eq {header total : Nat} (hlength : 42 ≤ p.length)
    (htotal : header + 8 ≤ total) (hfits : total ≤ p.length - 14) :
    readUdp p header total = some (fromServer (p.drop 14) ((p.drop 14).drop header) (total - header)) := by
  have hpseudo : readSum p 26 8 (17 + (total - header)) =
      some (wordSum ((p.drop 26).take 8) (17 + (total - header))) := readSum_eq (by omega) _
  have hdatagram : ∀ value, readSum p (14 + header) (total - header) value =
      some (wordSum ((p.drop (14 + header)).take (total - header)) value) := fun value => readSum_eq (by omega) value
  unfold readUdp fromServer
  dsimp only
  rw [readWord_eq (by omega), readWord_eq (by omega), readWord_eq (by omega), readWord_eq (by omega)]
  simp only [List.drop_drop, wordAt_drop, Option.bind_eq_bind, Option.bind_some, Nat.add_zero, Nat.reduceAdd]
  by_cases hsource : wordAt p (14 + header) = 67
  · by_cases hport : wordAt p (14 + header + 2) = 68
    · by_cases hsame : wordAt p (14 + header + 4) = total - header
      · rw [hsame, hpseudo]
        simp only [Option.bind_some, hdatagram]
        by_cases hgiven : wordAt p (14 + header + 6) = 0
        · simp [hsource, hport, hgiven]
        · simp [hsource, hport, hgiven]
      · simp [hsource, hport, hsame]
    · simp [hsource, hport]
  · simp [hsource]

theorem readHeader_eq (d : DhcpClient) (p : List UInt8) : readHeader d p = some (dhcpForClient d p) := by
  unfold readHeader dhcpForClient
  split
  · rename_i hlength
    rcases hlength with hshort | hlong
    · simp [Nat.not_le.2 hshort]
    · simp [Nat.not_le.2 hlong]
  · rename_i hlength
    simp only [not_or, Nat.not_lt] at hlength
    rw [readBytes_eq (by omega), readBytes_eq (by omega), read32_eq (by omega), read32_eq (by omega)]
    simp only [Option.bind_eq_bind, Option.bind_some, List.drop_zero, hlength.1, hlength.2, decide_true,
      Bool.true_and]
    by_cases hkind : p.take 3 = [2, 1, 6]
    · by_cases hxid : be32 (p.drop 4) = d.xid.toNat
      · by_cases hmac : (p.drop 28).take 6 = d.mac.take 6
        · simp [hkind, hxid, hmac]
        · simp [hkind, hxid, hmac]
      · simp [hkind, hxid]
    · simp [hkind]

/-- **An option** that does not run past the end. -/
theorem readOption_eq (o : DhcpOptions) (code : UInt8) {len : Nat} (h : i + len ≤ p.length) :
    readOption p o code i len = some (dhcpOption o code ((p.drop i).take len)) := by
  have hlen : ((p.drop i).take len).length = len := by
    simp only [List.length_take, List.length_drop]
    omega
  have hnone : (p.drop i).take len ≠ [] ↔ len ≠ 0 := by
    rw [← List.length_pos_iff_ne_nil, hlen, Nat.pos_iff_ne_zero]
  have hfirst : 4 ≤ len → read32 p i = some (be32 ((p.drop i).take len)) := by
    intro hfour
    rw [read32_eq (by omega), be32_take _ hfour]
  have hsecond : 8 ≤ len → read32 p (i + 4) = some (be32 (((p.drop i).take len).drop 4)) := by
    intro height
    rw [read32_eq (by omega), List.drop_take, List.drop_drop, be32_take _ (by omega)]
  have hbyte : 1 ≤ len → readByte p i = some (((p.drop i).take len).headD 0) := by
    intro hone
    have hi : i < p.length := by omega
    obtain ⟨rest, rfl⟩ := Nat.exists_eq_add_of_le' hone
    rw [readByte_eq hi, List.drop_eq_getElem_cons hi, List.take_succ_cons]
    simp [hi]
  generalize (p.drop i).take len = value at hlen hnone hfirst hsecond hbyte
  have hfour : ∀ take : Nat → DhcpOptions, (if len = 4 then (read32 p i).map (some ∘ take) else some none) =
      some (if len = 4 then some (take (be32 value)) else none) := by
    intro take
    split
    · rw [hfirst (by omega), Option.map_some]
      rfl
    · rfl
  have haddresses : (decide (len ≠ 0) && decide (len % 4 = 0)) = true → 4 ≤ len := by
    simp only [Bool.and_eq_true, decide_eq_true_eq]
    omega
  unfold readOption dhcpOption addressText
  simp only [hlen, hnone]
  generalize code.toNat = c
  split
  · split
    · rw [hbyte (by omega)]
      rfl
    · rfl
  · exact hfour _
  · exact hfour _
  · split
    · rename_i hlong
      rw [hfirst (haddresses hlong)]
      rfl
    · rfl
  · split
    · rename_i hlong
      rw [hfirst (haddresses hlong)]
      by_cases height : 8 ≤ len
      · simp only [height, if_true, hsecond height]
        rfl
      · simp only [height, if_false]
        rfl
    · rfl
  · exact hfour _
  · exact hfour _
  · exact hfour _
  · rfl
  · rfl
  · rfl
  · rfl
  · -- an option that is not looked at
    simp only [*]

/-- **The option loop** ends within as many rounds as there are bytes. -/
theorem readOptions_eq {rounds off : Nat} (o : DhcpOptions) (h : p.length ≤ off + rounds) :
    readOptions p rounds off o = some (dhcpOptions o (p.drop off)) := by
  induction rounds generalizing off o with
  | zero =>
    have hend : ¬ off < p.length := by omega
    rw [readOptions, if_neg hend, List.drop_eq_nil_of_le (by omega), dhcpOptions]
  | succ rounds ih =>
    rw [readOptions]
    by_cases hoff : off < p.length
    · rw [if_pos hoff, readByte_eq hoff, List.drop_eq_getElem_cons hoff]
      have hcode : p.getD off 0 = p[off] := by simp [hoff]
      rw [hcode]
      generalize p[off] = code
      simp only [Option.bind_eq_bind, Option.bind_some]
      by_cases hzero : code = 0
      · rw [if_pos hzero, hzero, dhcpOptions, ih _ (by omega)]
      · rw [if_neg hzero]
        by_cases hmark : code = 255
        · rw [if_pos hmark, hmark, dhcpOptions]
        · rw [if_neg hmark]
          have hpad : code = 0 → False := hzero
          have hend : code = 255 → False := hmark
          by_cases hlast : off + 1 = p.length
          · rw [if_pos hlast, List.drop_eq_nil_of_le (by omega), dhcpOptions]
            · exact hpad
            · exact hend
          · have hlen : off + 1 < p.length := by omega
            have hbyte : p.getD (off + 1) 0 = p[off + 1] := by simp [hlen]
            rw [if_neg hlast, readByte_eq hlen, List.drop_eq_getElem_cons hlen, hbyte]
            generalize p[off + 1] = len
            have hrest : (p.drop (off + 1 + 1)).length = p.length - (off + 2) := by simp
            simp only [Option.bind_some]
            by_cases hlong : len.toNat > p.length - (off + 2)
            · rw [if_pos hlong, dhcpOptions, if_pos (hrest ▸ hlong)]
              · exact hpad
              · exact hend
            · rw [if_neg hlong, readOption_eq o code (by omega), dhcpOptions, if_neg (hrest ▸ hlong)]
              · simp only [Option.bind_some]
                cases dhcpOption o code ((p.drop (off + 2)).take len.toNat) with
                | none => rfl
                | some o' =>
                  simp only
                  split
                  · rfl
                  · rw [ih _ (by omega), List.drop_drop]
              · exact hpad
              · exact hend
    · rw [if_neg hoff, List.drop_eq_nil_of_le (by omega), dhcpOptions]

theorem receiveReads_eq (d : DhcpClient) (p : List UInt8) (now : CoreTick) :
    receiveReads d p now = some (dhcpReceive d p now) := by
  unfold receiveReads dhcpReceive
  rw [readHeader_eq]
  simp only [Option.bind_eq_bind, Option.bind_some]
  split
  · rfl
  · rename_i hheader
    simp only [not_or, not_not] at hheader
    have hlength : 241 ≤ p.length := by
      have hforClient := hheader.1
      simp only [dhcpForClient, Bool.and_eq_true, decide_eq_true_eq] at hforClient
      exact hforClient.1.1.1.1.1
    split
    · rfl
    · rw [read32_eq (by omega), readOptions_eq {} (by omega)]
      simp only [Option.bind_some]
      cases dhcpOptions {} (p.drop 240) <;> rfl

theorem frameReads_eq (d : DhcpClient) (p : List UInt8) (now : CoreTick) :
    frameReads d p now = some (dhcpFrame d p now) := by
  unfold frameReads dhcpFrame framePayload
  rw [readEthernet_eq]
  simp only [Option.bind_eq_bind, Option.bind_some]
  by_cases hethernet : frameForClient d p = true
  · have hlength : 42 ≤ p.length := by
      simp only [frameForClient, Bool.and_eq_true, decide_eq_true_eq] at hethernet
      exact hethernet.1.1.1.1
    rw [readIpv4_eq hlength]
    by_cases hpacket : carriesUdp (p.drop 14) = true
    · have hlengths : headerLength (p.drop 14) + 8 ≤ wordAt (p.drop 14) 2 ∧
          wordAt (p.drop 14) 2 ≤ p.length - 14 := by
        simp only [carriesUdp, Bool.and_eq_true, decide_eq_true_eq, List.length_drop] at hpacket
        exact ⟨hpacket.1.1.1.1.2, hpacket.1.1.1.2⟩
      simp only [hethernet, hpacket, not_true_eq_false, if_false, if_true, Option.bind_some, Bool.true_and]
      rw [readUdp_eq hlength hlengths.1 hlengths.2]
      generalize headerLength (p.drop 14) = header at hlengths
      generalize wordAt (p.drop 14) 2 = total at hlengths
      simp only [Option.bind_some]
      split
      · simp
      · rename_i hdatagram
        simp only [not_not] at hdatagram
        rw [readWithin_eq (by omega), Option.bind_some, receiveReads_eq, if_pos hdatagram]
        simp only [List.drop_drop, Nat.add_assoc]
    · simp [hethernet, hpacket]
  · simp [hethernet]

end Reads

/-! ## What is accepted -/

/-- How the options of a message end. -/
inductive OptionsEnd where
  | marked
  /-- There is no end mark. -/
  | unmarked
  /-- An option runs past the end. -/
  | overrun
  deriving DecidableEq

/-- The options of a message, with their values, as they are spelled. -/
def spelledOptions (bytes : List UInt8) : List (UInt8 × List UInt8) × OptionsEnd :=
  match bytes with
  | [] => ([], .unmarked)
  | 0 :: rest => spelledOptions rest
  | 255 :: _ => ([], .marked)
  | [_] => ([], .overrun)
  | code :: len :: rest =>
      if len.toNat > rest.length then ([], .overrun)
      else
        let spelled := spelledOptions (rest.drop len.toNat)
        ((code, rest.take len.toNat) :: spelled.1, spelled.2)
  termination_by bytes.length
  decreasing_by
    · exact Nat.lt_succ_self _
    · exact length_drop_lt code len rest len.toNat

/-- Options as they may be accepted: an end mark ends them, no known one comes twice, and
    none is a route or the overload. -/
structure WellFormedOptions (bytes : List UInt8) : Prop where
  marked : (spelledOptions bytes).2 = .marked
  once : (((spelledOptions bytes).1.map Prod.fst).filter dhcpSingle).Nodup
  allowed : ∀ code ∈ (spelledOptions bytes).1.map Prod.fst, code ∉ ([33, 52, 121, 249] : List UInt8)

/-- An option that is taken is none of those that are refused. -/
theorem allowed_of_dhcpOption {o o' : DhcpOptions} {code : UInt8} {value : List UInt8}
    (h : dhcpOption o code value = some o') : code ∉ ([33, 52, 121, 249] : List UInt8) := by
  intro hmem
  simp only [List.mem_cons, List.not_mem_nil, or_false] at hmem
  rcases hmem with rfl | rfl | rfl | rfl <;> cases h

/-- Options that are read to the end mark: none comes twice, nor one met before. -/
theorem spelled_of_dhcpOptions {o r : DhcpOptions} {bytes : List UInt8} (h : dhcpOptions o bytes = some r) :
    WellFormedOptions bytes ∧
      ∀ code ∈ (spelledOptions bytes).1.map Prod.fst, dhcpSingle code = true → code ∉ o.seen := by
  induction o, bytes using dhcpOptions.induct with
  | case1 o => simp [dhcpOptions] at h
  | case2 o rest ih =>
    rw [dhcpOptions] at h
    obtain ⟨⟨hmarked, honce, hallowed⟩, hfresh⟩ := ih h
    have hsame : spelledOptions (0 :: rest) = spelledOptions rest := by rw [spelledOptions]
    refine ⟨⟨?_, ?_, ?_⟩, ?_⟩
    all_goals rw [hsame]
    all_goals assumption
  | case3 o rest =>
    have hnone : spelledOptions (255 :: rest) = ([], .marked) := by rw [spelledOptions]
    refine ⟨⟨?_, ?_, ?_⟩, ?_⟩
    all_goals simp [hnone]
  | case4 o code hzero hend =>
    rw [dhcpOptions] at h
    · cases h
    · exact hzero
    · exact hend
  | case5 o code len rest hzero hend hlong =>
    rw [dhcpOptions, if_pos hlong] at h
    · cases h
    · exact hzero
    · exact hend
  | case6 o code len rest hzero hend hfits hrefused =>
    rw [dhcpOptions, if_neg hfits, hrefused] at h
    · cases h
    · exact hzero
    · exact hend
  | case7 o code len rest hzero hend hfits o' htaken htwice =>
    rw [dhcpOptions, if_neg hfits, htaken] at h
    · simp only [if_pos htwice] at h
      cases h
    · exact hzero
    · exact hend
  | case8 o code len rest hzero hend hfits o' htaken honce ih =>
    rw [dhcpOptions, if_neg hfits, htaken] at h
    · simp only [if_neg honce] at h
      obtain ⟨⟨hmarked, hnodup, hallowed⟩, hfresh⟩ := ih h
      have hspelled : spelledOptions (code :: len :: rest) =
          ((code, rest.take len.toNat) :: (spelledOptions (rest.drop len.toNat)).1,
            (spelledOptions (rest.drop len.toNat)).2) := by
        rw [spelledOptions, if_neg hfits]
        · exact hzero
        · exact hend
      have hnew : dhcpSingle code = true → code ∉ o.seen := by
        intro hsingle hmem
        refine honce ?_
        simp [hsingle, hmem]
      -- a known option met here is not met again
      have hlater : dhcpSingle code = true →
          code ∉ ((spelledOptions (rest.drop len.toNat)).1.map Prod.fst).filter dhcpSingle := by
        intro hsingle hmem
        exact hfresh code (List.mem_filter.1 hmem).1 hsingle List.mem_cons_self
      refine ⟨⟨?_, ?_, ?_⟩, ?_⟩
      all_goals rw [hspelled]
      · exact hmarked
      · rw [List.map_cons, List.filter_cons]
        split
        · rename_i hsingle
          exact List.nodup_cons.2 ⟨hlater hsingle, hnodup⟩
        · exact hnodup
      · intro other hmem
        rcases List.mem_cons.1 hmem with rfl | hmem
        · exact allowed_of_dhcpOption htaken
        · exact hallowed other hmem
      · intro other hmem hsingle
        rcases List.mem_cons.1 hmem with rfl | hmem
        · exact hnew hsingle
        · exact fun hseen => hfresh other hmem hsingle (List.mem_cons_of_mem _ hseen)
    · exact hzero
    · exact hend

/-- A lease that has run out: the client starts over. -/
theorem dhcpStep_expired {d : DhcpClient} {now : CoreTick} (hon : d.state ≠ .off) (hvalid : d.valid = true)
    (hdue : due now d.expiresAt = true) :
    ∃ nextSend retries, dhcpStep d now true = dhcpRestart d now nextSend retries 3 := by
  obtain ⟨nextSend, retries, hrestart⟩ := @restarts_expired d now
  refine ⟨nextSend, retries, ?_⟩
  have hexpire : dhcpExpire d now = { dhcpInvalidate d with
      state := .selecting, started := now, nextSend := now, retries := 0, xid := d.xid + 1, error := 3 } :=
    if_pos (by simp [hvalid, hdue])
  unfold dhcpStep
  rw [if_neg hon, hexpire]
  simp only [Bool.not_true, Bool.false_eq_true, if_false, reduceCtorEq, decide_false, Bool.false_and]
  exact hrestart

/-- What is said of a parse that returns `r`; `message` is what it has found of the message. -/
structure ParsedSafely (d : DhcpClient) (now : CoreTick) (message : Option (List UInt8)) (r : Int × DhcpClient) :
    Prop where
  /-- A refusal leaves the client as it is, but for a lease that has run out. -/
  refused : r.1 = -1 → r.2 = d ∨ (d.valid = true ∧ due now d.expiresAt = true ∧
    ∃ nextSend retries, r.2 = dhcpRestart d now nextSend retries 3)
  accepted : r.1 ≠ -1 → ∃ m, message = some m ∧ WellFormedOptions (m.drop 240)

theorem parsedSafely_receive (d : DhcpClient) (p : List UInt8) (now : CoreTick) :
    ParsedSafely d now (some p) (dhcpReceive d p now) := by
  have htakes := dhcpReceive_takes d p now
  refine ⟨fun hrefused => ?_, fun haccepted => ?_⟩
  · by_cases hexpired : d.state.listens = true ∧ (d.valid && due now d.expiresAt) = true
    · obtain ⟨hlistens, hexpired⟩ := hexpired
      have hon : d.state ≠ .off := by
        intro hoff
        rw [hoff] at hlistens
        cases hlistens
      unfold dhcpReceive
      split
      · exact .inl rfl
      · simp only [Bool.and_eq_true] at hexpired
        simp only [hexpired]
        exact .inr ⟨trivial, trivial, dhcpStep_expired hon hexpired.1 hexpired.2⟩
    · generalize hr : dhcpReceive d p now = r at htakes hrefused
      cases htakes with
      | refused => exact .inl rfl
      | expired hvalid hdue =>
        -- a client that does not listen refuses before it looks at its lease
        have hdeaf : ¬ d.state.listens = true := fun hlistens => hexpired ⟨hlistens, by simp [hvalid, hdue]⟩
        have hsame : dhcpReceive d p now = (-1, d) := if_pos (.inr (by simpa using hdeaf))
        rw [hsame] at hr
        exact .inl (Prod.mk.inj hr).2.symm
      | refusal | offer | acknowledged => cases hrefused
  · have hheard : ∃ o, DhcpHeard d p o := by
      generalize dhcpReceive d p now = r at htakes haccepted
      cases htakes with
      | refused | expired => exact absurd rfl haccepted
      | refusal o h | offer o g h | acknowledged o g h => exact ⟨o, h⟩
    obtain ⟨o, hheard⟩ := hheard
    exact ⟨p, rfl, (spelled_of_dhcpOptions hheard.options).1⟩

/-- **The parsers are total and safe**, for every client, buffer and tick: they read nothing
    at or beyond the end, and their loops end; a refusal leaves the client as it is, but for
    a lease that has run out; and what is accepted is well formed. -/
theorem dhcpParsers_safe (d : DhcpClient) (p : List UInt8) (now : CoreTick) :
    (∃ r, frameReads d p now = some r ∧ ParsedSafely d now (framePayload d p) r) ∧
      ∃ r, receiveReads d p now = some r ∧ ParsedSafely d now (some p) r := by
  constructor
  · refine ⟨_, frameReads_eq d p now, ?_⟩
    unfold dhcpFrame
    split
    · rename_i hnone
      exact ⟨fun _ => .inl rfl, fun haccepted => absurd rfl haccepted⟩
    · rename_i payload hpayload
      rw [hpayload]
      exact parsedSafely_receive d payload now
  · exact ⟨_, receiveReads_eq d p now, parsedSafely_receive d p now⟩

end FourVrs.Network
