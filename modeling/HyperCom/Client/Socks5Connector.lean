import HyperCom.Client.BrokenSends
import HyperCom.Lib.ReadLoop

/-!
# The tunnel through a proxy

`perform_socks5_connect` on a socket that is connected to the proxy: a greeting, the
answer to it, a request that names the target, and its reply, whose length depends on
the kind of address in it. What the socket does is given read by read.

A connection that is reported was granted by a whole reply, and what was sent is
exactly the greeting and the request (`socks5_connected`). Reads are not aligned to
answers, so bytes behind the reply in the same read are lost. A proxy that sends
nothing before the tunnel is used loses nothing, however its answers are cut
(`socks5_answered`).
-/

namespace HyperCom

open ReadLoop ServerConnection

/-- A read as a piece of the stream; silence is an empty one. -/
def ServerConnection.SocketRead.piece : SocketRead → Option ByteString
  | .received bytes => some bytes
  | .silent => some []
  | .closed => none

namespace Socks5

/-- The bytes of RFC 1928 that the client uses. -/
def socksVersion : UInt8 := 0x05
def authNone : UInt8 := 0x00
def commandConnect : UInt8 := 0x01
/-- The client always asks by name, and leaves the lookup to the proxy. -/
def addressTypeDomain : UInt8 := 0x03
def addressTypeIpv4 : UInt8 := 0x01
def addressTypeIpv6 : UInt8 := 0x04
/-- The one reply code that is no error. -/
def replySuccess : UInt8 := 0x00
/-- A name has one byte for its length. -/
def maxDomainLength : ℕ := 255

/-- `MAX_READ_ATTEMPTS` -/
def maxReadAttempts : ℕ := 150

/-- `describe_reply_code` -/
def describeReplyCode (code : UInt8) : ByteString :=
  if code = 0x01 then ascii "echec general du proxy"
  else if code = 0x02 then ascii "connexion refusee par la regle du proxy"
  else if code = 0x03 then ascii "reseau injoignable"
  else if code = 0x04 then ascii "hote injoignable : l'adresse .onion existe-t-elle ?"
  else if code = 0x05 then ascii "connexion refusee par la cible"
  else if code = 0x06 then ascii "delai expire"
  else if code = 0x07 then ascii "commande non supportee par le proxy"
  else if code = 0x08 then ascii "type d'adresse non supporte par le proxy"
  else ascii "code de reponse inconnu"

/-- What the socket does: the answers of `send` in each of the two sends, and the reads
in order. -/
structure Behaviour where
  greetingSends : List SocketSend
  requestSends : List SocketSend
  reads : ℕ → SocketRead

/-- What each read brings, and whether the proxy is still there. -/
def Behaviour.pieces (behaviour : Behaviour) (position : ℕ) : Option ByteString :=
  (behaviour.reads position).piece

/-- How the negotiation ends, if its sends come back, what the proxy was sent, and how
often the socket was read. -/
structure Run where
  outcome : Option (Except ByteString Unit)
  sent : ByteString
  position : ℕ

/-- `read_exactly`: it appends whatever a read brings. -/
def readExactly (behaviour : Behaviour) (needed : ℕ) (buffer : ByteString) (position : ℕ) :
    Except ByteString ByteString × ℕ :=
  match readUntil behaviour.pieces needed maxReadAttempts buffer position with
  | (.enough buffer, position) => (.ok buffer, position)
  | (.closed, position) =>
    (.error (ascii "proxy SOCKS5 : connexion fermee pendant la negociation"), position)
  | (.starved, position) =>
    (.error (ascii "proxy SOCKS5 : aucune reponse. Tor est-il demarre ?"), position)

/-- Version 5, one method, and that is none. -/
def greeting : ByteString := [socksVersion, 0x01, authNone]

/-- `negotiate_no_auth` -/
def negotiateNoAuth (behaviour : Behaviour) : Run :=
  match sendAll behaviour.greetingSends greeting with
  | (none, sent) => ⟨none, sent, 0⟩
  | (some false, sent) =>
    ⟨some (.error (ascii "proxy SOCKS5 : envoi impossible. Tor ecoute-t-il ?")), sent, 0⟩
  | (some true, sent) =>
    match readExactly behaviour 2 [] 0 with
    | (.error failure, position) => ⟨some (.error failure), sent, position⟩
    | (.ok reply, position) =>
      if reply.getD 0 0 != socksVersion || reply.getD 1 0 != authNone then
        ⟨some (.error (ascii "proxy SOCKS5 : le proxy exige une authentification")), sent, position⟩
      else ⟨some (.ok ()), sent, position⟩

/-- The request: the port is big-endian. -/
def connectRequest (host : ByteString) (port : UInt16) : ByteString :=
  [socksVersion, commandConnect, 0x00, addressTypeDomain, UInt8.ofNat host.length] ++ host ++
    [(port >>> 8).toUInt8, port.toUInt8]

/-- `send_connect_request`: its result and what was sent. -/
def sendConnectRequest (sends : List SocketSend) (host : ByteString) (port : UInt16) :
    Option (Except ByteString Unit) × ByteString :=
  if host.isEmpty || host.length > maxDomainLength then
    (some (.error (ascii "proxy SOCKS5 : nom d'hote de longueur invalide")), [])
  else
    match sendAll sends (connectRequest host port) with
    | (none, sent) => (none, sent)
    | (some false, sent) =>
      (some (.error (ascii "proxy SOCKS5 : envoi de la demande impossible")), sent)
    | (some true, sent) => (some (.ok ()), sent)

/-- `measure_bound_address` -/
def measureBoundAddress (addressType firstByte : UInt8) : ℕ :=
  if addressType = addressTypeIpv4 then 4
  else if addressType = addressTypeIpv6 then 16
  else if addressType = addressTypeDomain then firstByte.toNat + 1
  else 0

/-- The end of `perform_socks5_connect`, behind the request. -/
def readConnectReply (behaviour : Behaviour) (position : ℕ) : Except ByteString Unit × ℕ :=
  match readExactly behaviour 5 [] position with
  | (.error failure, position) => (.error failure, position)
  | (.ok reply, position) =>
    if reply.getD 0 0 != socksVersion then
      (.error (ascii "proxy SOCKS5 : reponse non conforme"), position)
    else if reply.getD 1 0 != replySuccess then
      (.error (ascii "proxy SOCKS5 : " ++ describeReplyCode (reply.getD 1 0)), position)
    else
      let addressSize := measureBoundAddress (reply.getD 3 0) (reply.getD 4 0)
      if addressSize = 0 then
        (.error (ascii "proxy SOCKS5 : type d'adresse inattendu dans la reponse"), position)
      else
        match readExactly behaviour (4 + addressSize + 2) reply position with
        | (.error failure, position) => (.error failure, position)
        | (.ok _, position) => (.ok (), position)

/-- `perform_socks5_connect` -/
def performSocks5Connect (behaviour : Behaviour) (targetHost : ByteString) (targetPort : UInt16) :
    Run :=
  let greeted := negotiateNoAuth behaviour
  match greeted.outcome with
  | some (.ok ()) =>
    match sendConnectRequest behaviour.requestSends targetHost targetPort with
    | (some (.ok ()), sent) =>
      let (outcome, position) := readConnectReply behaviour greeted.position
      ⟨some outcome, greeted.sent ++ sent, position⟩
    | (outcome, sent) => ⟨outcome, greeted.sent ++ sent, greeted.position⟩
  | _ => greeted

/-! ## Replies -/

/-- The address in a reply. -/
inductive BoundAddress where
  | ipv4 (bytes : FixedBytes 4)
  | ipv6 (bytes : FixedBytes 16)
  | domain (name : { name : ByteString // name.length < 256 })

/-- Its type and its bytes. -/
def BoundAddress.encode : BoundAddress → ByteString
  | ipv4 bytes => addressTypeIpv4 :: bytes.1
  | ipv6 bytes => addressTypeIpv6 :: bytes.1
  | domain name => addressTypeDomain :: UInt8.ofNat name.1.length :: name.1

/-- The reply of a proxy to the request. -/
structure ConnectReply where
  code : UInt8
  reserved : UInt8
  address : BoundAddress
  port : FixedBytes 2

/-- The reply as the proxy sends it. -/
def ConnectReply.encode (reply : ConnectReply) : ByteString :=
  socksVersion :: reply.code :: reply.reserved :: (reply.address.encode ++ reply.port.1)

/-- The second byte of the address is there, and says with the first one how long it is. -/
theorem BoundAddress.encode_eq (address : BoundAddress) :
    ∃ addressType first rest, address.encode = addressType :: first :: rest ∧
      measureBoundAddress addressType first = rest.length + 1 := by
  cases address with
  | ipv4 bytes =>
    obtain ⟨bytes, hlength⟩ := bytes
    obtain ⟨first, rest, rfl⟩ := List.exists_cons_of_length_pos (by omega : 0 < bytes.length)
    exact ⟨_, first, rest, rfl, hlength.symm⟩
  | ipv6 bytes =>
    obtain ⟨bytes, hlength⟩ := bytes
    obtain ⟨first, rest, rfl⟩ := List.exists_cons_of_length_pos (by omega : 0 < bytes.length)
    exact ⟨_, first, rest, rfl, hlength.symm⟩
  | domain name =>
    obtain ⟨name, hlength⟩ := name
    refine ⟨_, _, name, rfl, ?_⟩
    have hbyte : (UInt8.ofNat name.length).toNat = name.length := by
      rw [UInt8.toNat_ofNat', Nat.mod_eq_of_lt hlength]
    change (UInt8.ofNat name.length).toNat + 1 = name.length + 1
    rw [hbyte]

/-- Bytes that are as long as they say are an address. -/
theorem BoundAddress.exists_encode {addressType first : UInt8} {rest : ByteString}
    (hsize : measureBoundAddress addressType first = rest.length + 1) :
    ∃ address : BoundAddress, address.encode = addressType :: first :: rest := by
  rw [measureBoundAddress] at hsize
  split_ifs at hsize with hipv4 hipv6 hdomain
  · exact ⟨.ipv4 ⟨first :: rest, hsize.symm⟩, by rw [hipv4]; rfl⟩
  · exact ⟨.ipv6 ⟨first :: rest, hsize.symm⟩, by rw [hipv6]; rfl⟩
  · have hlength : first.toNat = rest.length := by omega
    have hbound : rest.length < 256 := hlength ▸ first.toNat_lt
    refine ⟨.domain ⟨rest, hbound⟩, ?_⟩
    rw [BoundAddress.encode, hdomain, ← hlength, UInt8.ofNat_toNat]

/-- The first five bytes of a reply, and how long it is. -/
theorem ConnectReply.encode_eq (reply : ConnectReply) :
    ∃ addressType first rest,
      reply.encode = socksVersion :: reply.code :: reply.reserved :: addressType :: first :: rest ∧
        reply.encode.length = 4 + measureBoundAddress addressType first + 2 ∧
        measureBoundAddress addressType first ≠ 0 := by
  obtain ⟨addressType, first, rest, haddress, hsize⟩ := reply.address.encode_eq
  refine ⟨addressType, first, rest ++ reply.port.1, ?_, ?_, by omega⟩
  · rw [ConnectReply.encode, haddress, List.cons_append, List.cons_append]
  · rw [ConnectReply.encode, haddress, hsize]
    simp only [List.length_cons, List.length_append, reply.port.2]
    omega

/-- Bytes that start like a reply and are long enough start with a reply. -/
theorem ConnectReply.exists_encode {code reserved addressType first : UInt8} {rest : ByteString}
    (hsize : measureBoundAddress addressType first ≠ 0)
    (hlong : measureBoundAddress addressType first + 1 ≤ rest.length) :
    ∃ reply : ConnectReply, reply.code = code ∧ ∃ behind,
      socksVersion :: code :: reserved :: addressType :: first :: rest = reply.encode ++ behind := by
  generalize hmeasured : measureBoundAddress addressType first = size at hsize hlong
  obtain ⟨size, rfl⟩ := Nat.exists_eq_succ_of_ne_zero hsize
  have haddress : (rest.take size).length + 1 = size + 1 := by
    rw [List.length_take, Nat.min_eq_left (by omega)]
  obtain ⟨address, hencode⟩ := BoundAddress.exists_encode (hmeasured.trans haddress.symm)
  have hport : ((rest.drop size).take 2).length = 2 := by
    rw [List.length_take, List.length_drop]
    omega
  refine ⟨⟨code, reserved, address, ⟨_, hport⟩⟩, rfl, (rest.drop size).drop 2, ?_⟩
  simp only [ConnectReply.encode, hencode, List.cons_append, List.append_assoc,
    List.take_append_drop]

/-! ## Reading -/

section Reading

variable {behaviour : Behaviour} {needed position : ℕ} {buffer : ByteString}

/-- When it succeeds, it has read until there was enough. -/
theorem readExactly_ok {buffer' : ByteString} {last : ℕ}
    (h : readExactly behaviour needed buffer position = (.ok buffer', last)) :
    readUntil behaviour.pieces needed maxReadAttempts buffer position =
      (.enough buffer', last) := by
  rw [readExactly] at h
  rcases hloop : readUntil behaviour.pieces needed maxReadAttempts buffer position
    with ⟨buffer'' | _ | _, last'⟩
  · simp only [hloop, Prod.mk.injEq, Except.ok.injEq] at h
    obtain ⟨rfl, rfl⟩ := h
    rfl
  · simp [hloop] at h
  · simp [hloop] at h

/-- And it succeeds if there is enough in time. -/
theorem readExactly_of_delivered {count : ℕ} (hcount : count ≤ maxReadAttempts)
    (hopen : ∀ k < count, (behaviour.pieces (position + k)).isSome)
    (henough : needed ≤ (buffer ++ delivered behaviour.pieces position count).length) :
    ∃ made ≤ count, readExactly behaviour needed buffer position =
      (.ok (buffer ++ delivered behaviour.pieces position made), position + made) := by
  obtain ⟨made, hmade, hloop⟩ := readUntil_of_delivered hcount hopen henough
  exact ⟨made, hmade, by rw [readExactly, hloop]⟩

/-- The first five bytes of a reply are in the buffer. -/
theorem exists_five {reply : ByteString} (h : 5 ≤ reply.length) :
    ∃ version code reserved addressType first rest,
      reply = version :: code :: reserved :: addressType :: first :: rest := by
  match reply, h with
  | version :: code :: reserved :: addressType :: first :: rest, _ =>
    exact ⟨version, code, reserved, addressType, first, rest, rfl⟩

/-- Each of two loops stops at the first read that brings enough, so the second one does
on the whole. -/
theorem readConnectReply_ok {last : ℕ}
    (h : readConnectReply behaviour position = (.ok (), last)) :
    ∃ count, last = position + count ∧ ∃ reply : ConnectReply, reply.code = replySuccess ∧
      (∃ behind, delivered behaviour.pieces position count = reply.encode ++ behind) ∧
      ∀ k < count, (delivered behaviour.pieces position k).length < reply.encode.length := by
  rw [readConnectReply] at h
  rcases hfive : readExactly behaviour 5 [] position with ⟨_ | front, middle⟩
  · simp [hfive] at h
  obtain ⟨early, -, rfl, rfl, hlong, hearly⟩ := readUntil_enough (readExactly_ok hfive)
  rw [List.nil_append] at hfive hlong
  simp only [List.nil_append] at hearly
  simp only [hfive] at h
  split_ifs at h with hversion hcode haddress
  · cases h
  · cases h
  · cases h
  rcases hrest : readExactly behaviour (4 + measureBoundAddress
      ((delivered behaviour.pieces position early).getD 3 0)
      ((delivered behaviour.pieces position early).getD 4 0) + 2)
      (delivered behaviour.pieces position early) (position + early) with ⟨_ | whole, last'⟩
  · rw [hrest] at h
    cases h
  simp only [hrest, Prod.mk.injEq, true_and] at h
  obtain rfl := h
  obtain ⟨late, -, rfl, rfl, henough, hlate⟩ := readUntil_enough (readExactly_ok hrest)
  rw [← delivered_add] at henough
  obtain ⟨version, code, reserved, addressType, first, rest, hfront⟩ := exists_five hlong
  have hwhole : delivered behaviour.pieces position (early + late) =
      version :: code :: reserved :: addressType :: first ::
        (rest ++ delivered behaviour.pieces (position + early) late) := by
    rw [delivered_add, hfront]
    rfl
  simp only [hfront, List.getD_cons_zero, List.getD_cons_succ, bne_iff_ne, ne_eq,
    not_not] at hversion hcode haddress henough hlate
  obtain rfl := hversion
  obtain rfl := hcode
  rw [hwhole] at henough
  simp only [List.length_cons] at henough
  have hlate' : measureBoundAddress addressType first + 1 ≤
      (rest ++ delivered behaviour.pieces (position + early) late).length := by omega
  obtain ⟨reply, hreply, behind, hencode⟩ :=
    @ConnectReply.exists_encode replySuccess reserved _ _ _ haddress hlate'
  refine ⟨early + late, by omega, reply, hreply, ⟨behind, hwhole.trans hencode⟩, fun k hk => ?_⟩
  obtain ⟨addressType', first', rest', hparts, hlength, -⟩ := reply.encode_eq
  have hsame : addressType' = addressType ∧ first' = first := by
    rw [hparts] at hencode
    simp only [List.cons_append, List.cons.injEq] at hencode
    exact ⟨hencode.2.2.2.1.symm, hencode.2.2.2.2.1.symm⟩
  rw [hlength, hsame.1, hsame.2]
  rcases Nat.lt_or_ge k early with hk' | hk'
  · have := hearly k hk'
    omega
  · obtain ⟨more, rfl⟩ := Nat.exists_eq_add_of_le hk'
    have hmore := hlate more (by omega)
    rw [← hfront, ← delivered_add] at hmore
    exact hmore

end Reading

/-! ## What a connection means -/

section Connected

variable {behaviour : Behaviour} {host : ByteString} {port : UInt16}

/-- A negotiation that succeeded has sent the greeting and read its answer. -/
theorem negotiateNoAuth_ok (h : (negotiateNoAuth behaviour).outcome = some (.ok ())) :
    (negotiateNoAuth behaviour).sent = greeting ∧
      (∃ behind, delivered behaviour.pieces 0 (negotiateNoAuth behaviour).position =
        [socksVersion, authNone] ++ behind) ∧
      ∀ k < (negotiateNoAuth behaviour).position, (delivered behaviour.pieces 0 k).length < 2 := by
  rcases hsend : sendAll behaviour.greetingSends greeting with ⟨_ | _ | _, sent⟩
  · simp [negotiateNoAuth, hsend] at h
  · simp [negotiateNoAuth, hsend] at h
  obtain rfl : sent = greeting := by
    have hall := WriteLoop.writeAll_true (congrArg Prod.fst hsend)
    rwa [← sendAll, hsend] at hall
  rcases hread : readExactly behaviour 2 [] 0 with ⟨_ | reply, position⟩
  · simp [negotiateNoAuth, hsend, hread] at h
  obtain ⟨count, -, hposition, rfl, hlong, hfirst⟩ := readUntil_enough (readExactly_ok hread)
  obtain rfl : position = count := by omega
  simp only [List.nil_append] at hlong hfirst hread
  generalize hbytes : delivered behaviour.pieces 0 position = bytes at hlong hread
  obtain ⟨version, method, behind, rfl⟩ : ∃ version method behind, bytes =
      version :: method :: behind := by
    rcases bytes with _ | ⟨version, _ | ⟨method, behind⟩⟩
    · simp at hlong
    · simp at hlong
    · exact ⟨version, method, behind, rfl⟩
  by_cases haccepted : version = socksVersion ∧ method = authNone
  · obtain ⟨rfl, rfl⟩ := haccepted
    simp only [negotiateNoAuth, hsend, hread]
    exact ⟨rfl, ⟨behind, hbytes⟩, hfirst⟩
  · have hrefused : (version != socksVersion || method != authNone) = true := by
      rw [Bool.or_eq_true, bne_iff_ne, bne_iff_ne, ne_eq, ne_eq, ← not_and_or]
      exact haccepted
    simp [negotiateNoAuth, hsend, hread, hrefused] at h

/-- A request that was sent was sent whole, -/
theorem sendConnectRequest_ok {sends : List SocketSend} {sent : ByteString}
    (h : sendConnectRequest sends host port = (some (.ok ()), sent)) :
    sent = connectRequest host port ∧ host ≠ [] ∧ host.length ≤ maxDomainLength := by
  rw [sendConnectRequest] at h
  split_ifs at h with hlength
  · cases h
  rw [Bool.or_eq_true, List.isEmpty_iff, decide_eq_true_eq, not_or, not_lt] at hlength
  rcases hsend : sendAll sends (connectRequest host port) with ⟨_ | _ | _, taken⟩
  · rw [hsend] at h
    cases h
  · rw [hsend] at h
    cases h
  · rw [hsend] at h
    obtain ⟨-, rfl⟩ := Prod.mk.inj h
    have hall := WriteLoop.writeAll_true (congrArg Prod.fst hsend)
    rw [← sendAll, hsend] at hall
    exact ⟨hall, hlength⟩

/-- A connection that is reported was granted. The proxy was sent the greeting and the
request for the target and nothing else, it accepted the one without authentication, and it
answered the other with a whole granting reply, of whatever length. Of what it sent only bytes
that came in the same read as the end of an answer can be lost. -/
theorem socks5_connected
    (h : (performSocks5Connect behaviour host port).outcome = some (.ok ())) :
    (performSocks5Connect behaviour host port).sent = greeting ++ connectRequest host port ∧
      host ≠ [] ∧ host.length ≤ maxDomainLength ∧
      ∃ turn count, (performSocks5Connect behaviour host port).position = turn + count ∧
        (∃ behind, delivered behaviour.pieces 0 turn = [socksVersion, authNone] ++ behind) ∧
        (∀ k < turn, (delivered behaviour.pieces 0 k).length < 2) ∧
        ∃ reply : ConnectReply, reply.code = replySuccess ∧
          (∃ behind, delivered behaviour.pieces turn count = reply.encode ++ behind) ∧
          ∀ k < count, (delivered behaviour.pieces turn k).length < reply.encode.length := by
  have hgreeted : (negotiateNoAuth behaviour).outcome = some (.ok ()) := by
    rw [performSocks5Connect] at h
    generalize negotiateNoAuth behaviour = greeted at h
    obtain ⟨_ | _ | _, sent, position⟩ := greeted
    · cases h
    · cases h
    · rfl
  obtain ⟨hsent, hmethod, hfirst⟩ := negotiateNoAuth_ok hgreeted
  rcases hrequest : sendConnectRequest behaviour.requestSends host port with ⟨_ | _ | _, sent⟩
  · simp [performSocks5Connect, hgreeted, hrequest] at h
  · simp [performSocks5Connect, hgreeted, hrequest] at h
  obtain ⟨rfl, hhost⟩ := sendConnectRequest_ok hrequest
  rcases hreply : readConnectReply behaviour (negotiateNoAuth behaviour).position with ⟨outcome, last⟩
  simp only [performSocks5Connect, hgreeted, hrequest, hreply, Option.some.injEq] at h
  obtain rfl := h
  obtain ⟨count, rfl, reply, hgranted, hwhole, hshort⟩ := readConnectReply_ok hreply
  simp only [performSocks5Connect, hgreeted, hrequest, hreply, hsent]
  exact ⟨trivial, hhost.1, hhost.2, (negotiateNoAuth behaviour).position, count, rfl, hmethod, hfirst, reply, hgranted,
    hwhole, hshort⟩

/-! ## Any segmentation -/

/-- A proxy that does its part: it accepts the greeting, then sends this reply, and
nothing before the tunnel is used. Both may come in any pieces; only the request stands
between them. It keeps each of the three times that `read_exactly` has patience for: until
the greeting is answered, until five bytes of the reply are there, and until all of it is. -/
structure Answers (behaviour : Behaviour) (reply : ConnectReply) (turn early late : ℕ) :
    Prop where
  greets : delivered behaviour.pieces 0 turn = [socksVersion, authNone]
  greetsLast : ∀ k < turn, (delivered behaviour.pieces 0 k).length < 2
  begins : 5 ≤ (delivered behaviour.pieces turn early).length
  beginsLast : ∀ k < early, (delivered behaviour.pieces turn k).length < 5
  replies : delivered behaviour.pieces turn (early + late) = reply.encode
  staysOpen : ∀ k < turn + (early + late), (behaviour.pieces k).isSome
  inTime : turn ≤ maxReadAttempts ∧ early ≤ maxReadAttempts ∧ late ≤ maxReadAttempts

variable {reply : ConnectReply} {turn early late : ℕ}

/-- What `read_exactly` waits for is there after so many reads and not earlier, so it makes
these reads. -/
theorem readExactly_of_first {needed position : ℕ} {count : ℕ} (hcount : count ≤ maxReadAttempts)
    (hopen : ∀ k < count, (behaviour.pieces (position + k)).isSome)
    (henough : needed ≤ (delivered behaviour.pieces position count).length)
    (hbefore : ∀ k < count, (delivered behaviour.pieces position k).length < needed) :
    readExactly behaviour needed [] position =
      (.ok (delivered behaviour.pieces position count), position + count) := by
  obtain ⟨made, hmade, hread⟩ := @readExactly_of_delivered behaviour needed position [] count hcount
    hopen henough
  obtain ⟨-, -, -, -, hlong, -⟩ := readUntil_enough (readExactly_ok hread)
  rw [List.nil_append] at hread hlong
  obtain rfl : made = count := by
    by_contra hother
    exact absurd hlong (not_le.mpr (hbefore made (lt_of_le_of_ne hmade hother)))
  exact hread

/-- The answer to the greeting is read, and no byte of the reply. -/
theorem Answers.negotiateNoAuth (h : Answers behaviour reply turn early late)
    (hsend : (sendAll behaviour.greetingSends greeting).1 = some true) :
    Socks5.negotiateNoAuth behaviour = ⟨some (.ok ()), greeting, turn⟩ := by
  have hread := @readExactly_of_first behaviour 2 0 turn h.inTime.1
    (fun k hk => by rw [Nat.zero_add]; exact h.staysOpen k (by omega))
    (by rw [h.greets]; decide) h.greetsLast
  rw [Nat.zero_add, h.greets] at hread
  have hall := WriteLoop.writeAll_true hsend
  rcases hsent : sendAll behaviour.greetingSends greeting with ⟨outcome, sent⟩
  rw [← sendAll, hsent] at hall
  rw [hsent] at hsend
  obtain rfl : outcome = some true := hsend
  obtain rfl : sent = greeting := hall
  simp [Socks5.negotiateNoAuth, hsent, hread]

/-- The reply is read to its end if it grants the connection, and gives the reason if it
does not. -/
theorem Answers.readConnectReply (h : Answers behaviour reply turn early late) :
    ∃ made ≤ early + late, Socks5.readConnectReply behaviour turn =
        (if reply.code = replySuccess then .ok ()
          else .error (ascii "proxy SOCKS5 : " ++ describeReplyCode reply.code), turn + made) ∧
      (reply.code = replySuccess → delivered behaviour.pieces turn made = reply.encode) := by
  obtain ⟨addressType, first, rest, hparts, hlength, hsize⟩ := reply.encode_eq
  have hfive := readExactly_of_first h.inTime.2.1 (fun k hk => h.staysOpen (turn + k) (by omega))
    h.begins h.beginsLast
  have hwhole := h.replies
  rw [delivered_add] at hwhole
  obtain ⟨version, code, reserved, addressType', first', rest', hbytes⟩ := exists_five h.begins
  rw [hbytes, hparts] at hwhole
  simp only [List.cons_append, List.cons.injEq] at hwhole
  obtain ⟨rfl, rfl, rfl, rfl, rfl, hrest⟩ := hwhole
  by_cases hgranted : reply.code = replySuccess
  · have henough : 4 + measureBoundAddress addressType' first' + 2 ≤
        (delivered behaviour.pieces turn early ++
          delivered behaviour.pieces (turn + early) late).length := by
      rw [← delivered_add, h.replies, hlength]
    obtain ⟨made, hmade, hrestRead⟩ := readExactly_of_delivered h.inTime.2.2
      (fun k hk => by rw [Nat.add_assoc]; exact h.staysOpen (turn + (early + k)) (by omega)) henough
    obtain ⟨-, -, -, -, hall, -⟩ := readUntil_enough (readExactly_ok hrestRead)
    refine ⟨early + made, by omega, ?_, fun _ => ?_⟩
    · rw [Socks5.readConnectReply, hgranted]
      rw [hbytes, hgranted] at hfive hrestRead
      simp only [hfive, List.getD_cons_zero, List.getD_cons_succ, bne_self_eq_false,
        Bool.false_eq_true, if_false, if_neg hsize, hrestRead, if_true]
      rw [Nat.add_assoc]
    · rw [delivered_add]
      obtain ⟨more, rfl⟩ := Nat.exists_eq_add_of_le hmade
      have hreply := h.replies
      rw [delivered_add, delivered_add, ← List.append_assoc] at hreply
      refine (List.prefix_iff_eq_take.mp ⟨_, hreply⟩).trans (List.take_of_length_le ?_)
      rw [hlength]
      exact hall
  · refine ⟨early, by omega, ?_, fun hcode => absurd hcode hgranted⟩
    rw [Socks5.readConnectReply]
    have hrefused : (reply.code != replySuccess) = true := bne_iff_ne.mpr hgranted
    rw [hbytes] at hfive
    simp only [hfive, List.getD_cons_zero, List.getD_cons_succ, bne_self_eq_false,
      Bool.false_eq_true, if_false, hrefused, if_true, if_neg hgranted]

/-- for a host that has a name which fits. -/
theorem sendConnectRequest_sent {sends : List SocketSend} (hhost : host ≠ [])
    (hlength : host.length ≤ maxDomainLength)
    (hsend : (sendAll sends (connectRequest host port)).1 = some true) :
    sendConnectRequest sends host port = (some (.ok ()), connectRequest host port) := by
  have hfits : ¬ (host.isEmpty || host.length > maxDomainLength) = true := by
    rw [Bool.or_eq_true, List.isEmpty_iff, decide_eq_true_eq, not_or, not_lt]
    exact ⟨hhost, hlength⟩
  have hall := WriteLoop.writeAll_true hsend
  rcases hsent : sendAll sends (connectRequest host port) with ⟨outcome, sent⟩
  rw [← sendAll, hsent] at hall
  rw [hsent] at hsend
  obtain rfl : outcome = some true := hsend
  obtain rfl : sent = connectRequest host port := hall
  rw [sendConnectRequest, if_neg hfits, hsent]

/-- Through a proxy that does its part the connection depends on its reply alone, and not on
how its answers are cut: it is granted or refused with the reason the reply gives. When it is
granted all that the proxy sent was read and is gone, so the tunnel starts with the first byte
of the server. -/
theorem socks5_answered (h : Answers behaviour reply turn early late) (hhost : host ≠ [])
    (hlength : host.length ≤ maxDomainLength)
    (hgreeting : (sendAll behaviour.greetingSends greeting).1 = some true)
    (hrequest : (sendAll behaviour.requestSends (connectRequest host port)).1 = some true) :
    (performSocks5Connect behaviour host port).outcome = some
        (if reply.code = replySuccess then .ok ()
          else .error (ascii "proxy SOCKS5 : " ++ describeReplyCode reply.code)) ∧
      (performSocks5Connect behaviour host port).sent = greeting ++ connectRequest host port ∧
      (reply.code = replySuccess →
        delivered behaviour.pieces 0 (performSocks5Connect behaviour host port).position =
          [socksVersion, authNone] ++ reply.encode) := by
  have hgreeted := h.negotiateNoAuth hgreeting
  have hsent := sendConnectRequest_sent hhost hlength hrequest
  obtain ⟨last, -, hread, hwhole⟩ := h.readConnectReply
  simp only [performSocks5Connect, hgreeted, hsent, hread]
  refine ⟨trivial, trivial, fun hgranted => ?_⟩
  rw [delivered_add, Nat.zero_add, h.greets, hwhole hgranted]

end Connected

/-- A proxy that grants a connection, cut in the middle of both answers. -/
def patientProxy : Behaviour where
  greetingSends := [.sent 2, .timeout, .sent 1]
  requestSends := [.sent 100]
  reads := fun position =>
    match position with
    | 0 => .received [0x05]
    | 1 => .silent
    | 2 => .received [0x00]
    | 3 => .received [0x05, 0x00, 0x00, 0x01, 0x00, 0x00]
    | 4 => .received [0x00, 0x00, 0x00, 0x00]
    | _ => .silent

/-- It answers at its third read, and with the reply in two more. -/
theorem patientProxy_answers :
    Answers patientProxy ⟨0x00, 0x00, .ipv4 (FixedBytes.zero 4), FixedBytes.zero 2⟩ 3 1 1 where
  greets := by decide
  greetsLast := by decide
  begins := by decide
  beginsLast := by decide
  replies := by decide
  staysOpen := by decide
  inTime := by decide

/-- It opens the tunnel to a hidden service. -/
theorem socks5_answered_patientProxy :
    (performSocks5Connect patientProxy (ascii "a.onion") 7717).outcome = some (.ok ()) :=
  (socks5_answered patientProxy_answers (by decide) (by decide) (by decide) (by decide)).1

/-- And what the client sent it is the greeting and the request. -/
theorem socks5_connected_patientProxy :
    (performSocks5Connect patientProxy (ascii "a.onion") 7717).sent =
      [0x05, 0x01, 0x00] ++ [0x05, 0x01, 0x00, 0x03, 0x07] ++ ascii "a.onion" ++ [0x1E, 0x25] :=
  (socks5_connected (by decide)).1

end Socks5

end HyperCom
