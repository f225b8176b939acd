import AsyncTungstenite.Engine

/-!
# Around the handshake: its error, the host and the port

Besides the stream, `lib.rs` computes three things for the entry points that open a
connection. The handshake functions (`client_async_with_config`,
`accept_hdr_async_with_config`) hand back a handshake that failed as the failure's own
error, and one that stopped midway as an I/O error of kind `Other`. The runtime modules
connect to `domain(request)`, the URI's host with the brackets of an IPv6 literal
stripped, at `port(request)`, the URI's port or the scheme's default: 443 for `wss`, 80
for `ws`.

The URI has been parsed and validated by `http` before either function sees it; the model
keeps the three accessors they read.
-/

set_option autoImplicit false

namespace AsyncTungstenite

/-- `tungstenite::HandshakeError`: stopped midway, or failed with an error. The midway
state itself is only printed into the I/O error's text, which the model does not keep. -/
inductive HandshakeError
  | interrupted
  | failure (e : WsError)
  deriving DecidableEq, Repr

/-- The `map_err` of `client_async_with_config` and `accept_hdr_async_with_config`: a
failure's own error, or an I/O error of kind `Other` for a handshake stopped midway. -/
def handshakeError : HandshakeError → WsError
  | .failure e => e
  | .interrupted => .io .other

/-- The accessors of `http::Uri` that `domain` and `port` read. The host is a list of
characters: the host of a valid URI that starts with `[` is an IPv6 literal closed by `]`,
so the byte slice `&host[1..host.len() - 1]` drops exactly those two one-byte
characters. -/
structure Uri where
  host : Option (List Char)
  portU16 : Option UInt16
  schemeStr : Option String
  deriving DecidableEq, Repr

/-- `domain`: the URI's host, with the brackets of an IPv6 literal stripped;
`Url(NoHostName)` when there is no host. -/
def domain (uri : Uri) : Except WsError (List Char) :=
  match uri.host.map fun host =>
      if host.head? = some '[' then (host.drop 1).take (host.length - 2) else host with
  | some d => .ok d
  | none => .error (.url .noHostName)

/-- `port`: the URI's port, else the default of the scheme, 443 for `wss` and 80 for `ws`;
`Url(UnsupportedUrlScheme)` when there is neither. -/
def port (uri : Uri) : Except WsError UInt16 :=
  let byScheme : Option UInt16 := match uri.schemeStr with
    | some "wss" => some 443
    | some "ws" => some 80
    | _ => none
  match uri.portU16 <|> byScheme with
  | some p => .ok p
  | none => .error (.url .unsupportedUrlScheme)

/-- `domain` fails only without a host, and then with `Url(NoHostName)`. -/
theorem domain_eq_error_iff (uri : Uri) (e : WsError) :
    domain uri = .error e ↔ uri.host = none ∧ e = .url .noHostName := by
  unfold domain
  cases uri.host <;> simp [eq_comm]

/-- The port is the URI's own when it has one, else the scheme's default; there is none
exactly for a URI without a port whose scheme is neither `ws` nor `wss`. -/
theorem port_eq_ok_iff (uri : Uri) (p : UInt16) :
    port uri = .ok p ↔ uri.portU16 = some p ∨
      uri.portU16 = none ∧ (uri.schemeStr = some "wss" ∧ p = 443 ∨
        uri.schemeStr = some "ws" ∧ p = 80) := by
  obtain ⟨host, portU16, schemeStr⟩ := uri
  rcases portU16 with _ | q
  · rcases schemeStr with _ | s
    · simp [port]
    · by_cases wss : s = "wss"
      · subst wss; simp [port, eq_comm]
      · by_cases ws : s = "ws"
        · subst ws; simp [port, eq_comm]
        · simp [port, wss, ws]
  · simp [port, eq_comm]

/-- `port` fails only without a port and a known scheme, with `Url(UnsupportedUrlScheme)`. -/
theorem port_eq_error_iff (uri : Uri) (e : WsError) :
    port uri = .error e ↔ uri.portU16 = none ∧ uri.schemeStr ≠ some "wss" ∧
      uri.schemeStr ≠ some "ws" ∧ e = .url .unsupportedUrlScheme := by
  obtain ⟨host, portU16, schemeStr⟩ := uri
  rcases portU16 with _ | q
  · rcases schemeStr with _ | s
    · simp [port, eq_comm]
    · by_cases wss : s = "wss"
      · subst wss; simp [port]
      · by_cases ws : s = "ws"
        · subst ws; simp [port]
        · simp [port, wss, ws, eq_comm]
  · simp [port]

end AsyncTungstenite
