import Telemt.TlsFront.Emulator

namespace Telemt.TlsFront
open Telemt.Foundation Telemt.Stream

/-! # The plain server hello -/

structure TlsExtensionBuilder where
  extensions : Bytes := []

namespace TlsExtensionBuilder

def addKeyShare (builder : TlsExtensionBuilder) (publicKey : Bytes) : TlsExtensionBuilder where
  extensions := builder.extensions ++ beBytes 2 0x0033 ++ beBytes 2 (2 + 2 + 32) ++
    beBytes 2 0x001d ++ beBytes 2 32 ++ publicKey

def addSupportedVersions (builder : TlsExtensionBuilder) (version : Nat) : TlsExtensionBuilder where
  extensions := builder.extensions ++ beBytes 2 0x002b ++ beBytes 2 2 ++ beBytes 2 version

end TlsExtensionBuilder

structure ServerHelloBuilder where
  random : Bytes := List.replicate 32 0
  sessionId : Bytes
  cipherSuite : UInt8 × UInt8 := (0x13, 0x01)
  compression : UInt8 := 0x00
  extensions : TlsExtensionBuilder := {}

namespace ServerHelloBuilder
variable (builder : ServerHelloBuilder)

def withX25519Key (key : Bytes) : ServerHelloBuilder :=
  { builder with extensions := builder.extensions.addKeyShare key }

def withTls13Version : ServerHelloBuilder :=
  { builder with extensions := builder.extensions.addSupportedVersions 0x0304 }

def withCipherSuite (cipherSuite : UInt8 × UInt8) : ServerHelloBuilder :=
  if cipherSuite ≠ (0, 0) then { builder with cipherSuite := cipherSuite } else builder

def buildMessage : Bytes :=
  let extensions := builder.extensions.extensions
  if 256 ≤ builder.sessionId.length then []
  else if 65536 ≤ extensions.length then []
  else
    let bodyLen := 2 + 32 + 1 + builder.sessionId.length + 2 + 1 + 2 + extensions.length
    if 0xffffff < bodyLen then []
    else
      [0x02] ++ beBytes 3 bodyLen ++ [tlsVersion.major, tlsVersion.minor] ++ builder.random ++
        [UInt8.ofNat builder.sessionId.length] ++ builder.sessionId ++
        [builder.cipherSuite.1, builder.cipherSuite.2] ++ [builder.compression] ++
        beBytes 2 extensions.length ++ extensions

def buildRecord : Bytes :=
  let message := builder.buildMessage
  if message = [] then []
  else if 65536 ≤ message.length then []
  else TlsRecordHeader.toBytes ⟨tlsRecordHandshake, tlsVersion, message.length⟩ ++ message

end ServerHelloBuilder

structure ServerHelloRequest where
  secret : Bytes
  clientDigest : Bytes
  sessionId : Bytes
  fakeCertLen : Nat
  selectedCipherSuite : UInt8 × UInt8
  alpn : Option Bytes
  newSessionTickets : UInt8

def applicationRecord (len : Nat) (payload : Bytes) : Bytes :=
  TlsRecordHeader.toBytes ⟨tlsRecordApplication, tlsVersion, len % 65536⟩ ++ payload

def sessionTickets (rng : SecureRandom) : Nat → Nat → Bytes
  | _, 0 => []
  | call, count + 1 =>
    let ticketLen := rng.range call 48 + 48
    applicationRecord ticketLen (rng.bytes (call + 1) ticketLen) ++
      sessionTickets rng (call + 2) count

/-- The digest of the client's digest and the response takes the place of the random. -/
def insertDigest (prims : Primitives) (secret clientDigest response : Bytes) : Bytes :=
  response.take tlsDigestPos ++ prims.sha256Hmac secret (clientDigest ++ response) ++
    response.drop (tlsDigestPos + tlsDigestLen)

-- The chosen protocol would be encrypted in TLS 1.3: the source drops it.
def buildServerHelloWithCipher (prims : Primitives) (request : ServerHelloRequest)
    (rng : SecureRandom) : Bytes :=
  let fakeCertLen := clampAppData request.fakeCertLen
  let x25519Key := prims.x25519 (rng.bytes 0 32)
  let serverHello := ((({ sessionId := request.sessionId } : ServerHelloBuilder).withCipherSuite
    request.selectedCipherSuite).withX25519Key x25519Key).withTls13Version.buildRecord
  let fakeCert := rng.bytes 1 fakeCertLen
  let tickets := sessionTickets rng 2 (min request.newSessionTickets.toNat 4)
  insertDigest prims request.secret request.clientDigest
    (serverHello ++ changeCipherSpec ++ applicationRecord fakeCertLen fakeCert ++ tickets)

end Telemt.TlsFront
