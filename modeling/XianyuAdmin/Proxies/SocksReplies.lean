import XianyuAdmin.Proxies.SocksBridge

/-!
# SOCKS requests are answered once and never redirected

A client greets and then requests.  The handler connects to what the request says and to
nothing else, and it answers the request once.  Two kinds of requests get no answer: a
`CONNECT` to an address of unknown type, and one to a host name that does not decode.
-/

namespace XianyuAdmin.Proxies

open Procedure

inductive SocksAddress
  | ipv4 (packed : List.Vector UInt8 4)
  | domain (host : List UInt8) (hlength : host.length < 256)
  | ipv6 (packed : List.Vector UInt8 16)
  | other (addressType : UInt8)
      (hother : addressType ≠ 1 ∧ addressType ≠ 3 ∧ addressType ≠ 4) (bytes : List UInt8)

def SocksAddress.type : SocksAddress → UInt8
  | .ipv4 _ => 1
  | .domain _ _ => 3
  | .ipv6 _ => 4
  | .other addressType _ _ => addressType

def SocksAddress.bytes : SocksAddress → List UInt8
  | .ipv4 packed => packed.toList
  | .domain host _ => UInt8.ofNat host.length :: host
  | .ipv6 packed => packed.toList
  | .other _ _ bytes => bytes

def SocksAddress.destination (library : BridgeLibrary) : SocksAddress → Option String
  | .ipv4 packed => some (library.ipText packed.toList)
  | .domain host _ => library.idna host
  | .ipv6 packed => some (library.ipText packed.toList)
  | .other _ _ _ => none

structure SocksRequest where
  command : UInt8
  reserved : UInt8
  address : SocksAddress
  portHigh : UInt8
  portLow : UInt8

def SocksRequest.bytes (request : SocksRequest) : List UInt8 :=
  [5, request.command, request.reserved, request.address.type] ++ request.address.bytes ++
    [request.portHigh, request.portLow]

def SocksRequest.port (request : SocksRequest) : ℕ :=
  request.portHigh.toNat * 256 + request.portLow.toNat

def greetingBytes (methods : List UInt8) : List UInt8 :=
  [5, UInt8.ofNat methods.length] ++ methods

structure Opens (stream methods : List UInt8) (request : SocksRequest) : Prop where
  length_lt : methods.length < 256
  offers : 0 ∈ methods
  begins : greetingBytes methods ++ request.bytes <+: stream

/-- No connection is made but to the destination of a `CONNECT` request, once, and every request
that follows a greeting is answered once, with success only after a connection. -/
structure AnsweredOnce (library : BridgeLibrary) (stream : List UInt8) : Prop where
  directed : (handled library stream).connected = [] ∨
    ∃ methods request destination, Opens stream methods request ∧ request.command = 1 ∧
      request.address.destination library = some destination ∧
      (handled library stream).connected = [(destination, request.port)]
  answered : ∀ methods request, Opens stream methods request →
    ∃ status, (handled library stream).written = [[5, 0], replyBytes status] ∧
      (status = 0 → ∃ destination ∈ (handled library stream).connected,
        library.connects destination.1 destination.2 = true)

section Reading

variable {library : BridgeLibrary} {session : BridgeSession} {count : ℕ}
  {front back : List UInt8} {raises : BridgeError → BridgeSession → Prop}

theorem ends_readexactly {returns : List UInt8 → BridgeSession → Prop} :
    Ends (readexactly count) session returns raises ↔
      if count ≤ session.input.length then
        returns (session.input.take count) { session with input := session.input.drop count }
      else raises .incompleteRead session := by
  simp only [readexactly, ends_bind, ends_get]
  split <;> rfl

theorem ends_readexactly_append {returns : List UInt8 → BridgeSession → Prop}
    (hinput : session.input = front ++ back) (hlength : front.length = count) :
    Ends (readexactly count) session returns raises ↔
      returns front { session with input := back } := by
  rw [ends_readexactly, hinput, if_pos (by simp [← hlength]), ← hlength, List.take_left,
    List.drop_left]

@[simp]
theorem ends_writeBytes {data : List UInt8} {returns : Unit → BridgeSession → Prop} :
    Ends (writeBytes data) session returns raises ↔
      returns () { session with written := session.written ++ [data] } := Iff.rfl

@[simp]
theorem ends_socksReply {status : UInt8} {returns : Unit → BridgeSession → Prop} :
    Ends (socksReply status) session returns raises ↔
      returns () { session with written := session.written ++ [replyBytes status] } := Iff.rfl

theorem fromBigEndian_singleton (length : ℕ) (hlength : length < 256) :
    fromBigEndian [UInt8.ofNat length] = length := by
  simp [fromBigEndian, Nat.mod_eq_of_lt hlength]

theorem fromBigEndian_port (request : SocksRequest) :
    fromBigEndian [request.portHigh, request.portLow] = request.port := by
  simp [fromBigEndian, SocksRequest.port]

theorem ends_readDestination {address : SocksAddress} {destination : String}
    {returns : String → BridgeSession → Prop} (hinput : session.input = address.bytes ++ back)
    (hdestination : address.destination library = some destination) :
    Ends (readDestination library address.type) session returns raises ↔
      returns destination { session with input := back } := by
  cases address with
  | ipv4 packed =>
      cases hdestination
      simp only [readDestination, SocksAddress.type, if_true, ends_bind]
      rw [ends_readexactly_append hinput packed.toList_length]
      rfl
  | domain host hlength =>
      have hbytes : session.input = [UInt8.ofNat host.length] ++ (host ++ back) := hinput
      simp only [readDestination, SocksAddress.type, show ¬(3 : UInt8) = 1 by decide, if_false,
        if_true, ends_bind]
      rw [ends_readexactly_append hbytes (List.length_singleton : _ = 1),
        ends_readexactly_append rfl (fromBigEndian_singleton _ hlength).symm, decodeHost,
        show library.idna host = some destination from hdestination]
      rfl
  | ipv6 packed =>
      cases hdestination
      simp only [readDestination, SocksAddress.type, show ¬(4 : UInt8) = 1 by decide,
        show ¬(4 : UInt8) = 3 by decide, if_false, if_true, ends_bind]
      rw [ends_readexactly_append hinput packed.toList_length]
      rfl
  | other addressType hother bytes => cases hdestination

theorem ends_readDestination_of_none {address : SocksAddress}
    {returns : String → BridgeSession → Prop} (hinput : session.input = address.bytes ++ back)
    (hdestination : address.destination library = none)
    (hraises : ∀ error next, next.written = session.written → next.connected = session.connected →
      raises error next) :
    Ends (readDestination library address.type) session returns raises := by
  cases address with
  | ipv4 packed => cases hdestination
  | domain host hlength =>
      have hbytes : session.input = [UInt8.ofNat host.length] ++ (host ++ back) := hinput
      simp only [readDestination, SocksAddress.type, show ¬(3 : UInt8) = 1 by decide, if_false,
        if_true, ends_bind]
      rw [ends_readexactly_append hbytes (List.length_singleton : _ = 1),
        ends_readexactly_append rfl (fromBigEndian_singleton _ hlength).symm, decodeHost,
        show library.idna host = none from hdestination]
      exact hraises _ _ rfl rfl
  | ipv6 packed => cases hdestination
  | other addressType hother bytes =>
      simp only [readDestination, SocksAddress.type, hother.1, hother.2.1, hother.2.2, if_false]
      exact hraises _ _ rfl rfl

theorem readDestination_reads (addressType : UInt8) :
    Ends (readDestination library addressType) session
      (fun destination next => ∃ address : SocksAddress, address.type = addressType ∧
        address.destination library = some destination ∧
        session.input = address.bytes ++ next.input ∧ next.connected = session.connected)
      (fun _ next => next.connected = session.connected) := by
  unfold readDestination
  split
  · rename_i htype
    rw [ends_bind, ends_readexactly]
    split
    · rename_i hlength
      refine ⟨.ipv4 ⟨_, List.length_take_of_le hlength⟩, htype.symm, rfl, ?_, rfl⟩
      exact (List.take_append_drop _ _).symm
    · rfl
  · split
    · rename_i htype
      cases hinput : session.input with
      | nil =>
          rw [ends_bind, ends_readexactly, hinput]
          rfl
      | cons byte rest =>
          have hbyte : session.input = [byte] ++ rest := hinput
          rw [ends_bind, ends_readexactly_append hbyte (List.length_singleton : _ = 1), ends_bind,
            ends_readexactly]
          split
          · rename_i hlength
            have hcount : fromBigEndian [byte] = byte.toNat := by simp [fromBigEndian]
            have hhost : (rest.take (fromBigEndian [byte])).length = byte.toNat :=
              (List.length_take_of_le hlength).trans hcount
            rw [decodeHost]
            split
            · rename_i name hname
              refine ⟨.domain (rest.take (fromBigEndian [byte])) ?_, htype.symm, hname, ?_, rfl⟩
              · rw [hhost]
                exact byte.toNat_lt
              · rw [SocksAddress.bytes, hhost, UInt8.ofNat_toNat, List.cons_append,
                  List.take_append_drop]
            · rfl
          · rfl
    · split
      · rename_i htype
        rw [ends_bind, ends_readexactly]
        split
        · rename_i hlength
          refine ⟨.ipv6 ⟨_, List.length_take_of_le hlength⟩, htype.symm, rfl, ?_, rfl⟩
          exact (List.take_append_drop _ _).symm
        · rfl
      · rfl

end Reading

section Serving

variable {library : BridgeLibrary} {session : BridgeSession}

/-- What the client is answered, and the destination that was connected to. -/
def SocksRequest.outcome (library : BridgeLibrary) (request : SocksRequest) :
    Option UInt8 × Option (String × ℕ) :=
  if request.command ≠ 1 then (some 7, none)
  else
    match request.address.destination library with
    | none => (none, none)
    | some destination =>
        (some (if library.connects destination request.port then 0 else 5),
          some (destination, request.port))

theorem ends_tryConnect {destination : String} {port : ℕ}
    {returns : Bool → BridgeSession → Prop} {raises : BridgeError → BridgeSession → Prop} :
    Ends (tryConnect library destination port) session returns raises ↔
      let connecting :=
        { session with connected := session.connected ++ [(destination, port)] }
      if library.connects destination port then returns true connecting
      else returns false { connecting with written := session.written ++ [replyBytes 5] } := by
  simp only [tryConnect, connectUpstream, ends_tryCatch, ends_bind, ends_modify]
  split <;> rfl

theorem ends_serveRequest {request : SocksRequest} {rest : List UInt8}
    (hinput : session.input = request.bytes ++ rest) :
    Ends (serveRequest library) session
      (fun _ next =>
        next.written =
          session.written ++ ((request.outcome library).1.map replyBytes).toList ∧
        next.connected = session.connected ++ (request.outcome library).2.toList)
      (fun _ next =>
        next.written =
          session.written ++ ((request.outcome library).1.map replyBytes).toList ∧
        next.connected = session.connected ++ (request.outcome library).2.toList) := by
  have hhead : session.input =
      [5, request.command, request.reserved, request.address.type] ++
        (request.address.bytes ++ ([request.portHigh, request.portLow] ++ rest)) := by
    rw [hinput, SocksRequest.bytes]
    simp only [List.append_assoc]
  rw [serveRequest, ends_bind, ends_readexactly_append hhead (rfl : _ = 4)]
  by_cases hcommand : request.command = 1
  · simp only [hcommand, ne_eq, not_true_eq_false, or_false, if_false, ends_bind]
    cases hdestination : request.address.destination library with
    | none =>
        refine ends_readDestination_of_none rfl hdestination fun _ next hwritten hconnected => ?_
        simp [SocksRequest.outcome, hcommand, hdestination, hwritten, hconnected]
    | some destination =>
        rw [ends_readDestination rfl hdestination,
          ends_readexactly_append rfl (List.length_cons.trans rfl : _ = 2),
          ends_tryConnect, fromBigEndian_port]
        dsimp only
        split
        · rename_i hconnects
          simp [SocksRequest.outcome, hcommand, hdestination, hconnects]
        · rename_i hconnects
          simp [SocksRequest.outcome, hcommand, hdestination, hconnects]
  · simp [hcommand, SocksRequest.outcome]

theorem serveRequest_directed (hconnected : session.connected = []) :
    Ends (serveRequest library) session
      (fun _ next => next.connected = [] ∨ ∃ (request : SocksRequest) (destination : String),
        request.bytes <+: session.input ∧ request.command = 1 ∧
          request.address.destination library = some destination ∧
          next.connected = [(destination, request.port)])
      (fun _ next => next.connected = []) := by
  rw [serveRequest, ends_bind, ends_readexactly]
  split
  · rename_i hlength
    split
    · rename_i version command reserved addressType hhead
      split
      · exact .inl hconnected
      · rename_i hrequest
        rw [ends_bind]
        refine (readDestination_reads addressType).mono ?_ fun _ next hnext =>
          hnext.trans hconnected
        rintro destination next ⟨address, htype, hdestination, hinput, hnext⟩
        rw [ends_bind, ends_readexactly]
        split
        · rename_i hport
          obtain ⟨high, low, hbytes⟩ := List.length_eq_two.mp (List.length_take_of_le hport)
          rw [not_or, not_not, not_not] at hrequest
          obtain ⟨rfl, rfl⟩ := hrequest
          have hsent : (SocksRequest.bytes ⟨1, reserved, address, high, low⟩) <+:
              session.input := by
            refine ⟨next.input.drop 2, ?_⟩
            rw [SocksRequest.bytes, ← hbytes, List.append_assoc, List.take_append_drop,
              List.append_assoc, ← hinput, htype, ← hhead, List.take_append_drop]
          have hdirected : ∃ (request : SocksRequest) (destination' : String),
              request.bytes <+: session.input ∧ request.command = 1 ∧
                request.address.destination library = some destination' ∧
                next.connected ++ [(destination, fromBigEndian (next.input.take 2))] =
                  [(destination', request.port)] := by
            refine ⟨⟨1, reserved, address, high, low⟩, destination, hsent, rfl, hdestination, ?_⟩
            rw [hnext.trans hconnected, hbytes, fromBigEndian_port ⟨1, reserved, address, high, low⟩]
            rfl
          rw [ends_bind, ends_tryConnect]
          dsimp only
          split
          · exact .inr hdirected
          · exact .inr hdirected
        · exact hnext.trans hconnected
    · exact hconnected
  · exact hconnected

variable {stream : List UInt8}

theorem handled_eq_after (property : BridgeSession → Prop) :
    property (handled library stream) ↔
      Ends (serveClient library) { input := stream } (fun _ => property) fun _ => property := by
  unfold handled
  refine ends_after.symm.trans ?_
  rw [handleClient, ends_tryCatch]
  refine Ends.congr (Ends.of_forall (fun _ _ => trivial) fun _ _ => trivial)
    (fun _ _ _ => Iff.rfl) fun error next _ => ?_
  cases error <;> rfl

theorem handled_of_opens {methods : List UInt8} {request : SocksRequest}
    (hopens : Opens stream methods request) :
    (handled library stream).written =
        [5, 0] :: ((request.outcome library).1.map replyBytes).toList ∧
      (handled library stream).connected = (request.outcome library).2.toList := by
  obtain ⟨rest, rfl⟩ := hopens.begins
  have hhead : greetingBytes methods ++ request.bytes ++ rest =
      [5, UInt8.ofNat methods.length] ++ (methods ++ (request.bytes ++ rest)) := by
    simp only [greetingBytes, List.append_assoc]
  refine (handled_eq_after fun session => session.written = _ ∧ session.connected = _).mpr ?_
  rw [serveClient, ends_bind, ends_readexactly_append hhead (List.length_cons.trans rfl : _ = 2)]
  simp only [ne_eq, not_true_eq_false, if_false, ends_bind]
  rw [ends_readexactly_append rfl (by simp [Nat.mod_eq_of_lt hopens.length_lt]),
    if_pos hopens.offers, ends_bind, ends_writeBytes]
  exact ends_serveRequest rfl

theorem handled_directed :
    (handled library stream).connected = [] ∨ ∃ methods request destination,
      Opens stream methods request ∧ request.command = 1 ∧
        request.address.destination library = some destination ∧
        (handled library stream).connected = [(destination, request.port)] := by
  refine (handled_eq_after fun session => session.connected = [] ∨ ∃ methods request destination,
    Opens stream methods request ∧ request.command = 1 ∧
      request.address.destination library = some destination ∧
      session.connected = [(destination, request.port)]).mpr ?_
  rw [serveClient, ends_bind, ends_readexactly]
  split
  · rename_i hlength
    split
    · rename_i version methodCount hhead
      split
      · exact .inl rfl
      · rename_i hversion
        rw [ends_bind, ends_readexactly]
        split
        · rename_i hmethods
          split
          · rename_i hoffers
            rw [ends_bind, ends_writeBytes]
            refine (serveRequest_directed rfl).mono ?_ fun _ _ hnext => .inl hnext
            rintro _ next (hnone | ⟨request, destination, hrequest, hcommand, hdestination, hnext⟩)
            · exact .inl hnone
            · refine .inr ⟨_, request, destination, ⟨?_, hoffers, ?_⟩, hcommand, hdestination, hnext⟩
              · rw [List.length_take_of_le hmethods]
                exact methodCount.toNat_lt
              · obtain ⟨rest, hrest⟩ := hrequest
                refine ⟨rest, ?_⟩
                rw [greetingBytes, List.length_take_of_le hmethods, UInt8.ofNat_toNat,
                  ← not_not.mp hversion, ← hhead, List.append_assoc, List.append_assoc, hrest,
                  List.take_append_drop, List.take_append_drop]
          · exact .inl rfl
        · exact .inl rfl
    · exact .inl rfl
  · exact .inl rfl

end Serving

/-- Every request is answered once exactly if no `CONNECT` request that follows a greeting
names no destination: its address is of a known type, and a host name decodes. -/
theorem requests_answered_once_iff (library : BridgeLibrary) (stream : List UInt8) :
    AnsweredOnce library stream ↔
      ∀ methods request, Opens stream methods request → request.command = 1 →
        (request.address.destination library).isSome := by
  constructor
  · intro hanswered methods request hopens hcommand
    obtain ⟨status, hwritten, -⟩ := hanswered.answered methods request hopens
    rw [(handled_of_opens hopens).1, List.cons.injEq] at hwritten
    by_contra hnone
    rw [Option.not_isSome_iff_eq_none] at hnone
    simp [SocksRequest.outcome, hcommand, hnone] at hwritten
  · intro hnamed
    refine ⟨handled_directed, fun methods request hopens => ?_⟩
    rw [(handled_of_opens hopens).1, (handled_of_opens hopens).2]
    by_cases hcommand : request.command = 1
    · obtain ⟨destination, hdestination⟩ :=
        Option.isSome_iff_exists.mp (hnamed methods request hopens hcommand)
      simp only [SocksRequest.outcome, hcommand, hdestination, ne_eq, not_true_eq_false, if_false]
      refine ⟨_, rfl, fun hstatus => ⟨_, List.mem_singleton_self _, ?_⟩⟩
      by_contra hconnects
      rw [if_neg hconnects] at hstatus
      exact absurd hstatus (by decide)
    · simp only [SocksRequest.outcome, hcommand, ne_eq, not_false_eq_true, if_true]
      exact ⟨7, rfl, fun hstatus => absurd hstatus (by decide)⟩

def asciiLibrary : BridgeLibrary where
  ipText _ := "192.0.2.1"
  idna host :=
    if host.all (· < 128) then some (String.ofList (host.map fun byte => Char.ofNat byte.toNat))
    else none
  connects _ _ := true

/-- A host name of one byte that is not ASCII. -/
def undecodableRequest : SocksRequest :=
  ⟨1, 0, .domain [255] (by decide), 1, 187⟩

/-- A client that asks for such a host gets the reply to its greeting and nothing else. -/
theorem undecodable_host_unanswered :
    ¬ AnsweredOnce asciiLibrary (greetingBytes [0] ++ undecodableRequest.bytes) := by
  intro hanswered
  have hopens : Opens (greetingBytes [0] ++ undecodableRequest.bytes) [0] undecodableRequest :=
    ⟨by decide, by decide, List.prefix_rfl⟩
  obtain ⟨status, hwritten, -⟩ := hanswered.answered [0] undecodableRequest hopens
  rw [(handled_of_opens hopens).1,
    show undecodableRequest.outcome asciiLibrary = (none, none) from rfl] at hwritten
  simp at hwritten

end XianyuAdmin.Proxies
