import Reservations.Catalog.Address
import Reservations.Catalog.Resource

namespace Reservations.Catalog

/-! ## Look-ups over HTTP

A look-up is one request for the path of the resource. What the server makes of
it is a value, so that the outcome of a look-up is a function. -/

/-- How the end of a body is marked. -/
inductive Framing where
  /-- The body ends after the declared number of bytes. -/
  | length (declared : Nat)
  /-- The body ends with the connection. -/
  | untilClose
  /-- The body comes in chunks of a size, the last of which is empty. -/
  | chunked (size : Nat)
  deriving DecidableEq, Repr

/-- An answer of the server. -/
structure Reply where
  status : Nat
  framing : Framing
  body : List UInt8
  deriving DecidableEq, Repr

/-- What the server does with a request. -/
inductive Server where
  /-- Nobody takes the connection. -/
  | refuses
  /-- The connection is closed without an answer. -/
  | hangsUp
  /-- The connection stays open without an answer. -/
  | stalls
  /-- An answer comes. Then the connection stays open or is closed. -/
  | replies (reply : Reply) (staysOpen : Bool)
  deriving DecidableEq, Repr

/-- How a body ends for the one who reads it. -/
inductive Ending where
  | complete
  | cut
  | silent
  deriving DecidableEq, Repr

/-- The pieces of a body in the order they come, and how it ends. -/
structure Delivery where
  pieces : List (List UInt8)
  ending : Ending
  deriving DecidableEq, Repr

/-- Cuts bytes into chunks of a size, of which the last may be shorter. The
fuel bounds the number of chunks. -/
def chunksOf (size : Nat) : (fuel : Nat) → List UInt8 → List (List UInt8)
  | 0, _ => []
  | _, [] => []
  | fuel + 1, bytes => bytes.take size :: chunksOf size fuel (bytes.drop size)

/-- Whether an answer with a status has no body, whatever its framing. -/
def bodiless (status : Nat) : Bool :=
  status = 204 || status = 304

/-- The body of an answer as it comes. -/
def Reply.delivery (reply : Reply) (staysOpen : Bool) : Delivery :=
  if bodiless reply.status then ⟨[], .complete⟩
  else
    match reply.framing with
    | .length declared =>
        ⟨[reply.body.take declared],
          if declared ≤ reply.body.length then .complete
          else if staysOpen then .silent
          else .cut⟩
    | .untilClose => ⟨[reply.body], if staysOpen then .silent else .complete⟩
    | .chunked size => ⟨chunksOf (max size 1) reply.body.length reply.body, .complete⟩

/-- The declared length of a body, where there is one. -/
def Reply.declared? (reply : Reply) : Option Nat :=
  match reply.framing with
  | .length declared => if bodiless reply.status then none else some declared
  | _ => none

/-- Puts the pieces of a body together behind those before, given with their
length, but never beyond the limit. -/
def gather (length : Nat) (before : List (List UInt8)) :
    List (List UInt8) → Except LookupFailure (List (List UInt8))
  | [] => .ok before.reverse
  | piece :: pieces =>
      let total := length + piece.length
      if Limits.bodyBytes < total then .error (.malformed (.oversized total))
      else gather total (piece :: before) pieces

/-- Reads a body to its end. -/
def Delivery.read (delivery : Delivery) : Except LookupFailure (List UInt8) :=
  match gather 0 [] delivery.pieces with
  | .error failure => .error failure
  | .ok pieces =>
      match delivery.ending with
      | .complete => .ok pieces.flatten
      | .cut => .error (.transport none)
      | .silent => .error .timeout

/-- The resource that an answer describes when its body comes in a delivery. A declared
length beyond the limit is not read at all. -/
def Reply.resourceFrom (reply : Reply) (delivery : Delivery) :
    Except LookupFailure Resource :=
  if reply.status = 404 then .error .notFound
  else if reply.status < 200 ∨ 300 ≤ reply.status then .error (.status reply.status)
  else
    let excess := reply.declared?.filter fun declared => Limits.bodyBytes < declared
    match excess with
    | some declared => .error (.malformed (.oversized declared))
    | none =>
        match delivery.read with
        | .error failure => .error failure
        | .ok body =>
            match decode? body with
            | some resource => .ok resource
            | none => .error (.malformed .undecodable)

/-- The resource that an answer describes. -/
def Reply.resource (reply : Reply) (staysOpen : Bool) :
    Except LookupFailure Resource :=
  reply.resourceFrom (reply.delivery staysOpen)

/-- The outcome of a look-up. An answer that only announces another is none. -/
def Server.lookup : Server → Except LookupFailure Resource
  | refuses => .error (.transport none)
  | hangsUp => .error (.transport none)
  | stalls => .error .timeout
  | replies reply staysOpen =>
      if 100 ≤ reply.status ∧ reply.status < 200 ∧ reply.status ≠ 101 then
        if staysOpen then .error .timeout else .error (.transport none)
      else reply.resource staysOpen

/-- The request line that reaches a server, if any does. -/
def Server.request? (server : Server) (base : String) (id : Ulid) : Option String :=
  match server with
  | refuses => none
  | _ => some (requestLine base id)

end Reservations.Catalog
