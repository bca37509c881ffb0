import HyperCom.Client.Registry
import HyperCom.Protocol.DecimalText
import Mathlib.Data.List.TakeWhile

/-!
# Invite links there and back

`parse_invite_link` cuts at the first `#` and then at the last colon before it;
`parseInviteLink_eq_ok_iff` says what that accepts without a scanner. A host may
contain colons and a port may start with zeros: neither changes what comes back.

The link is for people: it is copied, mailed and typed. So both directions matter, that a
link that was built is read as it was meant, and that every text that is accepted says one
host, one port and one key.
-/

namespace HyperCom

/-- `format_invite_link` -/
def formatInviteLink (host : ByteString) (port : UInt16) (serverKeyHex : ByteString) : ByteString :=
  linkScheme ++ host ++ ascii ":" ++ ascii (toString port.toNat) ++ ascii "#" ++ serverKeyHex

/-! ## Cutting -/

/-- `find`: nothing before the cut is a separator. -/
theorem splitAtFirst_eq_some_iff {separator : UInt8} {text before after : ByteString} :
    splitAtFirst separator text = some (before, after) ↔
      text = before ++ separator :: after ∧ separator ∉ before := by
  constructor
  · intro h
    rw [splitAtFirst, Option.ite_none_right_eq_some, Option.some.injEq, Prod.mk.injEq] at h
    obtain ⟨hmem, rfl, rfl⟩ := h
    have hfree : separator ∉ text.takeWhile (· != separator) := fun hmem' => by
      simpa using List.mem_takeWhile_imp hmem'
    refine ⟨?_, hfree⟩
    have hrest : text.dropWhile (· != separator) ≠ [] := by
      rw [ne_eq, List.dropWhile_eq_nil_iff]
      intro hall
      simpa using hall separator hmem
    have hhead : (text.dropWhile (· != separator)).head hrest = separator := by
      simpa using List.head_dropWhile_not (· != separator) hrest
    conv_lhs => rw [← List.takeWhile_append_dropWhile (p := (· != separator)) (l := text),
      ← List.cons_head_tail hrest, hhead]
  · rintro ⟨rfl, hfree⟩
    have hbefore : ∀ character ∈ before, (character != separator) = true := by
      intro character hmem
      rw [bne_iff_ne]
      rintro rfl
      exact hfree hmem
    rw [splitAtFirst, if_pos (by simp), List.takeWhile_append_of_pos hbefore,
      List.dropWhile_append_of_pos hbefore]
    simp

/-- `rfind`: nothing behind the cut is a separator. -/
theorem splitAtLast_eq_some_iff {separator : UInt8} {text before after : ByteString} :
    splitAtLast separator text = some (before, after) ↔
      text = before ++ separator :: after ∧ separator ∉ after := by
  have hreverse : splitAtLast separator text = some (before, after) ↔
      splitAtFirst separator text.reverse = some (after.reverse, before.reverse) := by
    rw [splitAtLast, Option.map_eq_some_iff]
    constructor
    · rintro ⟨⟨first, second⟩, hsplit, hhalves⟩
      obtain ⟨rfl, rfl⟩ := Prod.mk.inj hhalves
      simpa using hsplit
    · intro hsplit
      exact ⟨_, hsplit, by simp⟩
  rw [hreverse, splitAtFirst_eq_some_iff, List.mem_reverse, List.reverse_eq_iff]
  simp

/-! ## Ports -/

/-- A port is read from digits, and is their value. -/
theorem parsePort_eq_some_iff {text : ByteString} {port : UInt16} :
    parsePort text = some port ↔
      text ≠ [] ∧ (∀ digit ∈ text, isDecimalDigit digit = true) ∧
        decimalValue text = port.toNat ∧ port ≠ 0 := by
  have hvalue : text.foldl (fun value digit => value * 10 + (digit.toNat - 0x30)) 0 =
      decimalValue text := rfl
  have hport : port.toNat < 65536 := port.toNat_lt
  have hzero : port ≠ 0 ↔ port.toNat ≠ 0 := by rw [ne_eq, ← UInt16.toNat_inj]; rfl
  rw [parsePort, hvalue, hzero]
  simp only [Bool.or_eq_true, List.isEmpty_iff, Bool.not_eq_true', Option.ite_none_left_eq_some,
    not_or, Bool.not_eq_false, List.all_eq_true, Option.some.injEq, ← UInt16.toNat_inj,
    UInt16.toNat_ofNat', and_assoc, ne_eq]
  constructor
  · rintro ⟨hne, hdigits, hnonzero, hbound, hport⟩
    exact ⟨hne, hdigits, by omega, by omega⟩
  · rintro ⟨hne, hdigits, hport, hnonzero⟩
    exact ⟨hne, hdigits, by omega, by omega, by omega⟩

theorem isDecimalDigit_iff {character : UInt8} :
    isDecimalDigit character = true ↔ 0x30 ≤ character.toNat ∧ character.toNat ≤ 0x39 := by
  simp only [isDecimalDigit, Bool.and_eq_true, decide_eq_true_eq, ge_iff_le,
    UInt8.le_iff_toNat_le]
  exact Iff.rfl

/-- `std::to_string` of a port is read back. -/
theorem parsePort_toString {port : UInt16} (hport : port ≠ 0) :
    parsePort (ascii (toString port.toNat)) = some port := by
  obtain ⟨hdigits, hvalue⟩ := printed_number port.toNat
  rw [parsePort_eq_some_iff]
  exact ⟨printed_number_ne_nil _, fun digit hdigit => isDecimalDigit_iff.mpr (hdigits digit hdigit),
    hvalue, hport⟩

/-! ## Links -/

/-- An accepted text is put together again from its parts. -/
theorem eq_of_parseInviteLink {text : ByteString} {link : InviteLink}
    (h : parseInviteLink text = .ok link) :
    ∃ portText,
      text = linkScheme ++ link.host ++ ascii ":" ++ portText ++ ascii "#" ++ link.serverKeyHex ∧
      link.host ≠ [] ∧ 0x23 ∉ link.host ∧ parsePort portText = some link.port ∧
      isHexKey link.serverKeyHex = true := by
  rw [parseInviteLink] at h
  split_ifs at h with hscheme
  rw [Bool.not_eq_true, Bool.not_eq_false', List.isPrefixOf_iff_prefix] at hscheme
  obtain ⟨rest, rfl⟩ := hscheme
  rw [List.drop_left] at h
  rcases hkey : splitAtFirst 0x23 rest with _ | ⟨body, key⟩
  · simp [hkey] at h
  simp only [hkey] at h
  split_ifs at h with hhex
  rcases hport : splitAtLast 0x3A body with _ | ⟨host, portText⟩
  · simp [hport] at h
  simp only [hport] at h
  rcases hparsed : parsePort portText with _ | port
  · simp [hparsed] at h
  simp only [hparsed] at h
  split_ifs at h with hhost
  obtain rfl := Except.ok.inj h
  obtain ⟨rfl, hfree⟩ := splitAtFirst_eq_some_iff.mp hkey
  obtain ⟨rfl, -⟩ := splitAtLast_eq_some_iff.mp hport
  refine ⟨portText, by simp [ascii], by simpa using hhost, fun hmem => ?_, hparsed, by simpa using hhex⟩
  exact hfree (List.mem_append_left _ hmem)

/-- The digits of a port hide no separator. -/
theorem not_mem_of_parsePort {portText : ByteString} {port : UInt16}
    (hparsed : parsePort portText = some port) {character : UInt8}
    (hother : isDecimalDigit character = false) : character ∉ portText := by
  intro hmem
  obtain ⟨-, hdigits, -⟩ := parsePort_eq_some_iff.mp hparsed
  rw [hdigits character hmem] at hother
  cases hother

theorem parseInviteLink_of_parts {link : InviteLink} {portText : ByteString}
    (hhost : link.host ≠ []) (hfree : 0x23 ∉ link.host)
    (hparsed : parsePort portText = some link.port) (hhex : isHexKey link.serverKeyHex = true) :
    parseInviteLink (linkScheme ++ link.host ++ ascii ":" ++ portText ++ ascii "#" ++
      link.serverKeyHex) = .ok link := by
  have hkey : splitAtFirst 0x23 (link.host ++ ascii ":" ++ portText ++ ascii "#" ++
      link.serverKeyHex) = some (link.host ++ ascii ":" ++ portText, link.serverKeyHex) := by
    rw [splitAtFirst_eq_some_iff]
    refine ⟨by simp [ascii], ?_⟩
    simp only [List.mem_append, not_or]
    exact ⟨⟨hfree, by decide⟩, not_mem_of_parsePort hparsed rfl⟩
  have hport : splitAtLast 0x3A (link.host ++ ascii ":" ++ portText) =
      some (link.host, portText) := by
    rw [splitAtLast_eq_some_iff]
    exact ⟨by simp [ascii], not_mem_of_parsePort hparsed rfl⟩
  have hscheme : linkScheme.isPrefixOf (linkScheme ++ (link.host ++ ascii ":" ++ portText ++
      ascii "#" ++ link.serverKeyHex)) = true :=
    List.isPrefixOf_iff_prefix.mpr (List.prefix_append _ _)
  have htext : linkScheme ++ link.host ++ ascii ":" ++ portText ++ ascii "#" ++
      link.serverKeyHex = linkScheme ++ (link.host ++ ascii ":" ++ portText ++
      ascii "#" ++ link.serverKeyHex) := by simp only [List.append_assoc]
  rw [htext, parseInviteLink, hscheme, List.drop_left]
  simp only [hkey, hport, hparsed, hhex, Bool.not_true, Bool.false_eq_true, if_false]
  rw [if_neg (by simpa using hhost)]

/-- What `parse_invite_link` accepts: the scheme, a host, a colon, digits, a `#`
and a key, and nothing else. -/
theorem parseInviteLink_eq_ok_iff {text : ByteString} {link : InviteLink} :
    parseInviteLink text = .ok link ↔
      ∃ portText,
        text = linkScheme ++ link.host ++ ascii ":" ++ portText ++ ascii "#" ++ link.serverKeyHex ∧
        link.host ≠ [] ∧ 0x23 ∉ link.host ∧ parsePort portText = some link.port ∧
        isHexKey link.serverKeyHex = true := by
  constructor
  · exact eq_of_parseInviteLink
  · rintro ⟨portText, rfl, hhost, hfree, hparsed, hhex⟩
    exact parseInviteLink_of_parts hhost hfree hparsed hhex

/-- A formatted link, read back. -/
theorem parseInviteLink_format {host : ByteString} {port : UInt16} {serverKeyHex : ByteString}
    (hhost : host ≠ []) (hfree : 0x23 ∉ host) (hport : port ≠ 0)
    (hhex : isHexKey serverKeyHex = true) :
    parseInviteLink (formatInviteLink host port serverKeyHex) =
      .ok { host, port, serverKeyHex } :=
  parseInviteLink_eq_ok_iff.mpr ⟨_, rfl, hhost, hfree, parsePort_toString hport, hhex⟩

/-- Invite links go round: a link made of a host without `#`, a port and a key is
read back as these, and what is read from any accepted text is read back from
its own link. An accepted text is the scheme, the host, the digits of the port
and the key with their separators, and not a byte more. -/
theorem invite_links_round_trip :
    (∀ host port serverKeyHex, host ≠ [] → 0x23 ∉ host → port ≠ 0 → isHexKey serverKeyHex = true →
      parseInviteLink (formatInviteLink host port serverKeyHex) =
        .ok { host, port, serverKeyHex }) ∧
    (∀ text link, parseInviteLink text = .ok link →
      parseInviteLink (formatInviteLink link.host link.port link.serverKeyHex) = .ok link ∧
      ∃ portText,
        text = linkScheme ++ link.host ++ ascii ":" ++ portText ++ ascii "#" ++ link.serverKeyHex ∧
        portText ≠ [] ∧ (∀ digit ∈ portText, isDecimalDigit digit = true) ∧
        decimalValue portText = link.port.toNat ∧
        link.host ≠ [] ∧ 0x23 ∉ link.host ∧ isHexKey link.serverKeyHex = true) := by
  refine ⟨fun host port serverKeyHex => parseInviteLink_format, fun text link h => ?_⟩
  obtain ⟨portText, htext, hhost, hfree, hport, hhex⟩ := parseInviteLink_eq_ok_iff.mp h
  obtain ⟨hne, hdigits, hvalue, hnonzero⟩ := parsePort_eq_some_iff.mp hport
  exact ⟨parseInviteLink_format hhost hfree hnonzero hhex,
    portText, htext, hne, hdigits, hvalue, hhost, hfree, hhex⟩

end HyperCom
