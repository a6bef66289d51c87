import LibreLinux.Results.Payload
import Mathlib.Data.Finset.Insert

/-!
# The module's view of the agent's slots

`DBusAgentClient::snapshot` serves a cached list of readers, or enumerates the
agent's objects and reads each inserted card's certificates. Here a call is a
sequence of steps, each of which touches the state the calls and the signal
handlers share at most once: the exchange of the dirty mark, the question for
the managed objects, a visit to one object of the reply, the question for a
card's certificates, the record of a card whose read is settled, the store of
the new list, and the mark of an incomplete one. Calls of other threads and the
handlers may come in between.

Replies and read results are inputs of the steps, mistyped ones included. A
value read as another type than it has throws, which ends the call. The
derivation of a certificate's entry and of the token's texts belongs to the agent
library, as do the numbers of its error codes. The client is connected.
-/

namespace LibreLinux.Pkcs11

open Wire (Variant Dict Interfaces ManagedObjects kReaderIface kCardIface)
open Results (Certificates1CertTuple Bytes)

/-- The refusal of a card that has no certificates the agent can read. -/
def kErrUnsupportedOnThisCard : String := "org.librescrs.Agent.Error.UnsupportedOnThisCard"

/-- What a card asks for before it can be read. -/
inductive PreReadAuth where
  | none
  | can
  | mrz
deriving DecidableEq, Repr

/-- The words of `PreReadAuthMethod`; an unknown one asks for a secret. -/
def preReadAuthFromToken (token : String) : PreReadAuth :=
  if token = "None" then .none else if token = "Can" then .can else .mrz

/-- A certificate as the agent library judges it. -/
structure NeutralCert (κ : Type) where
  certId : String
  signingCapable : Bool
  keyUsageBits : UInt32
  alwaysAuthenticate : Bool
  keyId : Bytes
  keyType : κ
  keyBits : UInt32
  canDerive : Bool
  subjectCn : String := ""

/-- What enumeration takes from the agent library: key types, certificate
entries, token texts, and the error codes of a failure on the way to the card. -/
structure Library (κ ε : Type) where
  keyTypeFromToken : String → κ
  certEntryFrom : NeutralCert κ → PreReadAuth → Option ε
  tokenLabelFor : List ε → String → String
  tokenSerialFor : String → String
  cardRemoved : UInt32
  communicationError : UInt32
  watchdogTimeout : UInt32
  rateLimited : UInt32

/-- A library with nothing to show. -/
def plainLibrary : Library Unit Unit where
  keyTypeFromToken _ := ()
  certEntryFrom _ _ := none
  tokenLabelFor _ readerName := readerName
  tokenSerialFor card := card
  cardRemoved := 1
  communicationError := 2
  watchdogTimeout := 3
  rateLimited := 4

/-- How a certificate read ended. -/
structure CertificateRead where
  operation : String := ""
  timedOut : Bool := false
  status : UInt32 := 2
  errorCode : UInt32 := 0
  message : String := ""
  certificates : List Certificates1CertTuple := []

/-- The number of an operation that ended in an error. -/
def kStatusError : UInt32 := 2

/-- Whether the certificates are there. -/
def CertificateRead.ok (read : CertificateRead) : Bool := !read.timedOut && read.status == 0

/-- Whether the call for a read would be refused again. -/
def refusalSettles (errorName : String) : Bool := errorName == kErrUnsupportedOnThisCard

/-- The end of a read: an end of its operation, a bus error, or another
exception. -/
inductive ReadEnd where
  | finished (read : CertificateRead)
  | error (errorName : String)
  | exception

/-- What a read means for the enumeration. -/
inductive ReadOutcome where
  | read (certificates : List Certificates1CertTuple)
  | settled
  | askAgain

/-- One reader in the kept list. -/
structure ReaderState (ε : Type) where
  readerPath : String
  readerName : String := ""
  hasCard : Bool := false
  certs : List ε := []
  tokenLabel : String := ""
  tokenSerial : String := ""

section Reading

variable {κ ε : Type} (library : Library κ ε)

/-- Whether asking again would end the same way. -/
def CertificateRead.settled (read : CertificateRead) : Bool :=
  if read.timedOut then false
  else if read.status ≠ kStatusError then true
  else !(read.errorCode = library.cardRemoved || read.errorCode = library.communicationError ||
    read.errorCode = library.watchdogTimeout || read.errorCode = library.rateLimited)

/-- The outcome of a read. -/
def readCerts : ReadEnd → ReadOutcome
  | .finished read =>
    if read.ok then .read read.certificates
    else if read.settled library then .settled else .askAgain
  | .error errorName => if refusalSettles errorName then .settled else .askAgain
  | .exception => .askAgain

/-- The subject's common name, empty when absent; `none` when it is not a
string. -/
def subjectCn (cert : Certificates1CertTuple) : Option String :=
  match (cert.fields.lookup "subject").bind (fun group => group.lookup "cn") with
  | none => some ""
  | some (_, _, value) => value.getString

/-- The facts of a certificate that decide its entry. -/
def neutralCert (cert : Certificates1CertTuple) : Option (NeutralCert κ) :=
  (subjectCn cert).map (fun subjectCn =>
    { certId := cert.certId
      signingCapable := cert.signingCapable
      keyUsageBits := cert.keyUsageBits
      alwaysAuthenticate := cert.alwaysAuthenticate
      keyId := cert.keyId
      keyType := library.keyTypeFromToken cert.keyType
      keyBits := cert.keyBits
      canDerive := cert.canDerive
      subjectCn })

/-- The entries of the certificates read, in order, without those that have
none. -/
def certEntries (preAuth : PreReadAuth) (certs : List Certificates1CertTuple) : Option (List ε) :=
  (certs.mapM (neutralCert library)).map (fun neutral =>
    neutral.filterMap (fun cert => library.certEntryFrom cert preAuth))

/-- The texts shown for the token. -/
def tokenTexts (card : String) (reader : ReaderState ε) : ReaderState ε :=
  { reader with
    tokenLabel := library.tokenLabelFor reader.certs reader.readerName
    tokenSerial := library.tokenSerialFor card }

end Reading

section Visiting

variable {ε : Type}

/-- An optional property, with its default; `none` when it has another type. -/
def readProperty {α : Type} (props : Dict) (key : String) (get : Variant → Option α) (default : α) :
    Option α :=
  match props.lookup key with
  | none => some default
  | some value => get value

/-- The method of a card's own object in the reply, when it is there as a string;
"None" otherwise. -/
def preReadToken (managed : ManagedObjects) (card : String) : String :=
  ((((managed.lookup card).bind (fun ifaces => ifaces.lookup kCardIface)).bind
    (fun props => props.lookup "PreReadAuthMethod")).bind Variant.getString).getD "None"

/-- What a visit to one object finds: no reader, a mistyped property, a reader
without a card, or a reader with the path of its card. -/
inductive Visit (ε : Type) where
  | other
  | mistyped
  | vacant (reader : ReaderState ε)
  | occupied (reader : ReaderState ε) (card : String) (preAuth : PreReadAuth)

/-- Visit an object of the reply. A mistyped name is left empty; a mistyped
presence or card path throws. -/
def visitObject (managed : ManagedObjects) (object : String × Interfaces) : Visit ε :=
  match object.2.lookup kReaderIface with
  | none => .other
  | some props =>
    match readProperty props "HasCard" Variant.getBool false,
        readProperty props "Card" Variant.getObjectPath "" with
    | some hasCard, some card =>
      let readerName := (readProperty props "Name" Variant.getString "").getD ""
      let reader := { readerPath := object.1, readerName, hasCard }
      if hasCard && card != "" then
        .occupied reader card (preReadAuthFromToken (preReadToken managed card))
      else .vacant reader
    | _, _ => .mistyped

end Visiting

/-- What the calls and the signal handlers share. The generation has 64 bits. -/
structure Shared (ε : Type) where
  cached : List (ReaderState ε) := []
  dirty : Bool := true
  settledCards : Finset String := ∅
  generation : UInt64 := 0

/-- The walk over a reply: the generation read before it was asked for, the
reply, the objects still to visit, the readers so far and whether all of it
succeeded. -/
structure Walk (ε : Type) where
  generation : UInt64
  managed : ManagedObjects
  todo : ManagedObjects
  readers : List (ReaderState ε) := []
  complete : Bool := true

/-- Where a call of `snapshot` stands. -/
inductive Phase (ε : Type) where
  | entered
  | serving
  | enumerating
  | asking (generation : UInt64)
  | walking (walk : Walk ε)
  | calling (walk : Walk ε) (reader : ReaderState ε) (card : String) (preAuth : PreReadAuth)
  | reading (walk : Walk ε) (reader : ReaderState ε) (card : String) (preAuth : PreReadAuth)
  | settling (walk : Walk ε) (reader : ReaderState ε) (card : String)
  | storing (readers : List (ReaderState ε)) (complete : Bool)
  | marking (readers : List (ReaderState ε)) (complete : Bool)
  | returned (readers : List (ReaderState ε))
  | thrown

/-- The next step of a call, with what the agent answers. -/
inductive Input where
  | exchange
  | serve
  | begin
  | answer (reply : Option ManagedObjects)
  | visit
  | accept
  | ended (read : ReadEnd)
  | settle
  | store
  | mark

section Calling

variable {κ ε : Type} (library : Library κ ε)

/-- Keep a reader and go on with the next object. -/
def Walk.keep (walk : Walk ε) (reader : ReaderState ε) : Walk ε :=
  { walk with readers := walk.readers ++ [reader] }

/-- Go on after a certificate read. One that failed on its way leaves the list
incomplete; one that is settled is recorded next. -/
def afterRead (walk : Walk ε) (reader : ReaderState ε) (card : String) (preAuth : PreReadAuth) :
    ReadOutcome → Phase ε
  | .askAgain => .walking { walk.keep (tokenTexts library card reader) with complete := false }
  | .settled => .settling walk reader card
  | .read certificates =>
    match certEntries library preAuth certificates with
    | none => .thrown
    | some certs => .walking (walk.keep (tokenTexts library card { reader with certs }))

/-- Visit the next object, or end the walk. A card known to be settled is not
read again. -/
def visitNext (shared : Shared ε) (walk : Walk ε) : Phase ε :=
  match walk.todo with
  | [] => .storing walk.readers walk.complete
  | object :: rest =>
    let walk := { walk with todo := rest }
    match visitObject walk.managed object with
    | .other => .walking walk
    | .mistyped => .thrown
    | .vacant reader => .walking (walk.keep reader)
    | .occupied reader card preAuth =>
      if card ∈ shared.settledCards then .settling walk reader card
      else .calling walk reader card preAuth

/-- Record a settled card, unless a signal came since the generation was read. -/
def settleCard (shared : Shared ε) (card : String) (generation : UInt64) : Shared ε :=
  if generation = shared.generation then
    { shared with settledCards := insert card shared.settledCards }
  else shared

/-- One step of a call. -/
def advance (shared : Shared ε) : Phase ε → Input → Option (Shared ε × Phase ε)
  | .entered, .exchange =>
    some ({ shared with dirty := false }, if shared.dirty then .enumerating else .serving)
  | .serving, .serve => some (shared, .returned shared.cached)
  | .enumerating, .begin => some (shared, .asking shared.generation)
  | .asking _, .answer none => some (shared, .storing [] false)
  | .asking generation, .answer (some managed) =>
    some (shared, .walking { generation, managed, todo := managed })
  | .walking walk, .visit => some (shared, visitNext shared walk)
  | .calling walk reader card preAuth, .accept => some (shared, .reading walk reader card preAuth)
  | .calling walk reader card preAuth, .ended (.error errorName) =>
    some (shared, afterRead library walk reader card preAuth (readCerts library (.error errorName)))
  | .calling walk reader card preAuth, .ended .exception =>
    some (shared, afterRead library walk reader card preAuth (readCerts library .exception))
  | .reading walk reader card preAuth, .ended read =>
    some (shared, afterRead library walk reader card preAuth (readCerts library read))
  | .settling walk reader card, .settle =>
    some (settleCard shared card walk.generation,
      .walking (walk.keep (tokenTexts library card reader)))
  | .storing readers complete, .store =>
    some ({ shared with cached := readers }, .marking readers complete)
  | .marking readers complete, .mark =>
    some ({ shared with dirty := shared.dirty || !complete }, .returned readers)
  | _, _ => none

/-- The first half of a signal handler: no card is settled any more. -/
def forgetSettled (shared : Shared ε) : Shared ε :=
  { shared with settledCards := ∅, generation := shared.generation + 1 }

/-- The second half of a signal handler. -/
def invalidate (shared : Shared ε) : Shared ε := { shared with dirty := true }

/-- Whether the call has consumed the dirty mark and not yet stored its list. -/
def Phase.inFlight : Phase ε → Bool
  | .enumerating => true
  | .asking _ => true
  | .walking _ => true
  | .calling _ _ _ _ => true
  | .reading _ _ _ _ => true
  | .settling _ _ _ => true
  | .storing _ _ => true
  | _ => false

end Calling

end LibreLinux.Pkcs11
