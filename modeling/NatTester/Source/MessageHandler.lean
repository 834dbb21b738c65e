import NatTester.Source.StunBuilder
import NatTester.Source.StunReader

/-!
# CStunRequestHandler

`messagehandler.cpp`, `socketrole.h`. The reader, the address set and the output
buffer are values here, so the NULL checks of `ProcessRequest` have no
counterpart; a socket role is one of the four by its type. The results of the
builder's calls are not looked at, as in the source.
-/
namespace NatTester.Source
open NatTester.Lib

/-- `enum SocketRole` -/
inductive SocketRole where
  | rolePP | rolePA | roleAP | roleAA
  deriving DecidableEq, Repr

namespace SocketRole

def number : SocketRole → Nat
  | .rolePP => 0
  | .rolePA => 1
  | .roleAP => 2
  | .roleAA => 3

def ofNumber : Nat → SocketRole
  | 0 => .rolePP
  | 1 => .rolePA
  | 2 => .roleAP
  | _ => .roleAA

def swapPort (sr : SocketRole) : SocketRole := ofNumber (sr.number ^^^ 0x01)
def swapIP (sr : SocketRole) : SocketRole := ofNumber (sr.number ^^^ 0x02)

end SocketRole

structure StunMessageIn where
  socketrole : SocketRole
  addrLocal : CSocketAddress
  addrRemote : CSocketAddress
  reader : CStunMessageReader
  fConnectionOriented : Bool

/-- `spBufferOut` is the buffer of the caller. -/
structure StunMessageOut where
  socketrole : SocketRole
  addrDest : CSocketAddress
  spBufferOut : CBuffer
  deriving DecidableEq, Repr

structure StunMessageIntegrity where
  fSendWithIntegrity : Bool
  fUseLongTerm : Bool
  szUser : AuthString
  szRealm : AuthString
  szPassword : AuthString
  deriving DecidableEq, Repr

structure TransportAddress where
  addr : CSocketAddress
  fValid : Bool
  deriving DecidableEq, Repr

structure TransportAddressSet where
  set : SocketRole → TransportAddress

structure StunErrorCode where
  errorcode : UInt16
  msgclass : StunMessageClass
  msgtype : UInt16
  attribUnknown : UInt16
  szNonce : AuthString
  szRealm : AuthString
  deriving DecidableEq, Repr

structure CStunRequestHandler where
  pAuth : Option IStunAuth
  pAddrSet : TransportAddressSet
  pMsgIn : StunMessageIn
  pMsgOut : StunMessageOut
  integrity : StunMessageIntegrity
  error : StunErrorCode
  fRequestHasResponsePort : Bool
  transid : StunTransactionId
  fLegacyMode : Bool

namespace CStunRequestHandler

/-- `CStunRequestHandler()` with the four pointers set. -/
def new (pAuth : Option IStunAuth) (pAddrSet : TransportAddressSet) (pMsgIn : StunMessageIn)
    (pMsgOut : StunMessageOut) : CStunRequestHandler where
  pAuth
  pAddrSet
  pMsgIn
  pMsgOut
  integrity := ⟨false, false, AuthString.zero, AuthString.zero, AuthString.zero⟩
  error := ⟨0, .request, 0, 0, AuthString.zero, AuthString.zero⟩
  fRequestHasResponsePort := false
  transid := StunTransactionId.zero
  fLegacyMode := false

/-- The alias `reader`. -/
def reader (h : CStunRequestHandler) : CStunMessageReader := h.pMsgIn.reader

def setErrorcode (errorcode : UInt16) (h : CStunRequestHandler) : CStunRequestHandler :=
  { h with error := { h.error with errorcode } }

def setBufferOut (spBufferOut : CBuffer) (h : CStunRequestHandler) : CStunRequestHandler :=
  { h with pMsgOut := { h.pMsgOut with spBufferOut } }

def hasAddress (role : SocketRole) (h : CStunRequestHandler) : Bool := (h.pAddrSet.set role).fValid

def isIPAddressZeroOrInvalid (role : SocketRole) (h : CStunRequestHandler) : Bool :=
  !(h.hasAddress role && !(h.pAddrSet.set role).addr.isIPAddressZero)

/-- Run a builder attached to the output buffer; what the caller of the handler
then finds there. -/
def withBuilder (m : Hr CStunMessageBuilder Unit) (h : CStunRequestHandler) : CStunRequestHandler :=
  let spBufferOut := (h.pMsgOut.spBufferOut.setSize 0).2
  let builder := (Proc.exec m (CStunMessageBuilder.newOn spBufferOut)).2
  h.setBufferOut (builder.stream.sharedBuffer.getD spBufferOut)

section Responses
variable [Platform]
open CStunMessageBuilder

/-- The literal `"FAILED"`. -/
def failedReason : Bytes := [0x46, 0x41, 0x49, 0x4C, 0x45, 0x44, 0]

/-- `if (sz[0]) builder.AddStringAttribute(attribType, sz)` -/
def addStringIfSet (attribType : UInt16) (sz : AuthString) : Hr CStunMessageBuilder Unit :=
  if sz.chars.getD 0 0 ≠ 0 then Proc.ignore (addStringAttribute attribType (some sz.chars)) else pure ()

/-- What an error response carries besides the code. -/
def addErrorDetails (error : StunErrorCode) : Hr CStunMessageBuilder Unit :=
  if error.errorcode = STUN_ERROR_UNKNOWNATTRIB ∧ error.attribUnknown ≠ 0 then
    Proc.ignore (addUnknownAttributes (some [error.attribUnknown]))
  else if error.errorcode = STUN_ERROR_STALENONCE ∨ error.errorcode = STUN_ERROR_UNAUTHORIZED then do
    addStringIfSet STUN_ATTRIBUTE_NONCE error.szNonce
    addStringIfSet STUN_ATTRIBUTE_REALM error.szRealm
  else pure ()

def errorResponse (h : CStunRequestHandler) : Hr CStunMessageBuilder Unit := do
  setLegacyMode h.fLegacyMode
  Proc.ignore (addHeader h.error.msgtype h.error.msgclass)
  Proc.ignore (addTransactionId h.transid)
  Proc.ignore (addErrorCode h.error.errorcode (some failedReason))
  addErrorDetails h.error
  Proc.ignore fixLengthField
  Proc.ignore getResult

def buildErrorResponse (h : CStunRequestHandler) : CStunRequestHandler := h.withBuilder h.errorResponse

/-- `_error.errorcode = STUN_ERROR_BADREQUEST; return E_FAIL;` -/
def badRequestIf (cond : Prop) [Decidable cond] : Hr CStunRequestHandler Unit :=
  if cond then do
    modify (setErrorcode STUN_ERROR_BADREQUEST)
    throw E_FAIL
  else pure ()

/-- The change request logic: the role to send from. -/
def selectOutput : Hr CStunRequestHandler SocketRole := do
  let h ← get
  let changerequest := h.reader.getChangeRequest
  if SUCCEEDED changerequest.1 ∧ (changerequest.2.fChangeIP ∨ changerequest.2.fChangePort) then do
    let socketOutput := h.pMsgIn.socketrole
    let socketOutput := if changerequest.2.fChangeIP then socketOutput.swapIP else socketOutput
    let socketOutput := if changerequest.2.fChangePort then socketOutput.swapPort else socketOutput
    badRequestIf (h.hasAddress socketOutput = false ∨ h.pMsgIn.fConnectionOriented = true)
    pure socketOutput
  else pure h.pMsgIn.socketrole

/-- `addrOther`, when it is sent. -/
def otherAddress (h : CStunRequestHandler) : Option CSocketAddress :=
  if h.hasAddress .rolePP ∧ h.hasAddress .rolePA ∧ h.hasAddress .roleAP ∧ h.hasAddress .roleAA then
    let socketOther := h.pMsgIn.socketrole.swapPort.swapIP
    if h.isIPAddressZeroOrInvalid socketOther then none else some (h.pAddrSet.set socketOther).addr
  else none

/-- `addrOrigin`; it is sent unless its IP is zero. -/
def originAddress (socketOutput : SocketRole) (h : CStunRequestHandler) : CSocketAddress :=
  let addrOrigin := (h.pAddrSet.set socketOutput).addr
  if addrOrigin.isIPAddressZero ∧ socketOutput = h.pMsgIn.socketrole then h.pMsgIn.addrLocal else addrOrigin

/-- The address attributes in the order of Vovida's server. -/
def addOrigin (addrOrigin : CSocketAddress) : Hr CStunMessageBuilder Unit :=
  if addrOrigin.isIPAddressZero = false then Proc.ignore (addResponseOriginAddress addrOrigin) else pure ()

def addOther : Option CSocketAddress → Hr CStunMessageBuilder Unit
  | none => pure ()
  | some addrOther => Proc.ignore (addOtherAddress addrOther)

variable [Digests]

def addIntegrity (integrity : StunMessageIntegrity) : Hr CStunMessageBuilder Unit :=
  if integrity.fSendWithIntegrity then
    if integrity.fUseLongTerm = false then
      Proc.ignore (addMessageIntegrityShortTerm integrity.szPassword.chars)
    else
      Proc.ignore
        (addMessageIntegrityLongTerm integrity.szUser.chars integrity.szRealm.chars integrity.szPassword.chars)
  else pure ()

def successResponse (addrOrigin : CSocketAddress) (addrOther : Option CSocketAddress) (h : CStunRequestHandler) :
    Hr CStunMessageBuilder Unit := do
  setLegacyMode h.fLegacyMode
  Proc.ignore (addHeader StunMsgTypeBinding .successResponse)
  Proc.ignore (addTransactionId h.transid)
  Proc.ignore (addMappedAddress h.pMsgIn.addrRemote)
  addOrigin addrOrigin
  addOther addrOther
  Proc.ignore (addXorMappedAddress h.pMsgIn.addrRemote)
  addIntegrity h.integrity
  Proc.ignore fixLengthField

/-- The buffer is emptied before any check. -/
def processBindingRequest : Hr CStunRequestHandler Unit := do
  modify fun h => h.setBufferOut (h.pMsgOut.spBufferOut.setSize 0).2
  let h ← get
  badRequestIf (h.fRequestHasResponsePort = true ∧ SUCCEEDED h.reader.getPaddingAttributeSize.1 = true)
  let socketOutput ← selectOutput
  modify fun h => { h with pMsgOut := { h.pMsgOut with socketrole := socketOutput } }
  modify fun h => h.withBuilder (h.successResponse (h.originAddress socketOutput) h.otherAddress)

end Responses

/-! ## Authorisation -/

/-- An attribute copied into a zeroed array; one that does not fit leaves it zero. -/
def readAuthString (attributeType : UInt16) (r : CStunMessageReader) : AuthString :=
  match r.getStringAttributeByType attributeType (MAX_STUN_AUTH_STRING_SIZE + 1) with
  | .ok value => AuthString.zero.overlay value
  | .error _ => AuthString.zero

def authAttributes (r : CStunMessageReader) : AuthAttributes where
  szUser := readAuthString STUN_ATTRIBUTE_USERNAME r
  szRealm := readAuthString STUN_ATTRIBUTE_REALM r
  szNonce := readAuthString STUN_ATTRIBUTE_NONCE r
  szLegacyPassword := readAuthString STUN_ATTRIBUTE_LEGACY_PASSWORD r
  fMessageIntegrityPresent := r.hasMessageIntegrityAttribute

/-- The three strings are terminated; a short one keeps what it has. -/
def terminated (authresponse : AuthResponse) : AuthResponse :=
  { authresponse with
    szNonce := authresponse.szNonce.terminate
    szRealm := authresponse.szRealm.terminate
    szPassword := authresponse.szPassword.terminate }

section Auth
variable [Digests]

/-- `ValidateMessageIntegrityLong` or `Short`, as the mechanism says. -/
def checkCredential (authattributes : AuthAttributes) (authresponse : AuthResponse) (r : CStunMessageReader) :
    HRESULT :=
  match authresponse.authCredMech with
  | .authCredLongTerm =>
    r.validateMessageIntegrityLong authattributes.szUser.chars authattributes.szRealm.chars
      authresponse.szPassword.chars
  | .authCredShortTerm => r.validateMessageIntegrityShort authresponse.szPassword.chars

/-- The response is to be signed with the credential of the request. -/
def setIntegrity (authattributes : AuthAttributes) (authresponse : AuthResponse) (h : CStunRequestHandler) :
    CStunRequestHandler :=
  { h with
    integrity :=
      { fSendWithIntegrity := true
        fUseLongTerm := authresponse.authCredMech = .authCredLongTerm
        szPassword := h.integrity.szPassword.strcpy authresponse.szPassword
        szUser := h.integrity.szUser.strcpy authattributes.szUser
        szRealm := h.integrity.szRealm.strcpy authattributes.szRealm } }

def applyAuthResponse (authattributes : AuthAttributes) (authresponse : AuthResponse) (h : CStunRequestHandler) :
    CStunRequestHandler :=
  match authresponse.responseType with
  | .staleNonce => h.setErrorcode STUN_ERROR_STALENONCE
  | .unauthorized => h.setErrorcode STUN_ERROR_UNAUTHORIZED
  | .reject => h.setErrorcode STUN_ERROR_BADREQUEST
  | .allow => h
  | .allowConditional =>
    if SUCCEEDED (checkCredential authattributes authresponse h.reader) then h.setIntegrity authattributes authresponse
    else h.setErrorcode STUN_ERROR_UNAUTHORIZED

/-- The strings a 401 or 438 is sent with. -/
def copyChallenge (authresponse : AuthResponse) (h : CStunRequestHandler) : CStunRequestHandler :=
  if h.error.errorcode = STUN_ERROR_UNAUTHORIZED ∨ h.error.errorcode = STUN_ERROR_STALENONCE then
    { h with
      error := { h.error with
        szRealm := h.error.szRealm.strcpy authresponse.szRealm
        szNonce := h.error.szNonce.strcpy authresponse.szNonce } }
  else h

def validateAuth : Hr CStunRequestHandler Unit := do
  let h ← get
  match h.pAuth with
  | none => pure ()
  | some auth => do
    let authattributes := authAttributes h.reader
    let answer := auth authattributes
    chk answer.1
    let authresponse := terminated answer.2
    modify fun h => copyChallenge authresponse (applyAuthResponse authattributes authresponse h)

end Auth

/-! ## The request -/

/-- What the error response and the answer take from the request. -/
def prepare (h : CStunRequestHandler) : CStunRequestHandler :=
  { h with
    error := { h.error with msgtype := h.reader.getMessageType, msgclass := .failureResponse }
    transid := h.reader.getTransactionId
    fLegacyMode := h.reader.isMessageLegacyFormat }

def responseport (r : CStunMessageReader) : UInt16 :=
  match r.getResponsePort with
  | .ok port => port
  | .error _ => 0

def honourResponsePort (h : CStunRequestHandler) : CStunRequestHandler :=
  if responseport h.reader ≠ 0 then
    if h.pMsgIn.fConnectionOriented then
      { h.setErrorcode STUN_ERROR_BADREQUEST with fRequestHasResponsePort := true }
    else
      { h with
        fRequestHasResponsePort := true
        pMsgOut := { h.pMsgOut with addrDest := h.pMsgOut.addrDest.setPort (responseport h.reader) } }
  else h

def requireBinding (h : CStunRequestHandler) : CStunRequestHandler :=
  if h.error.errorcode = 0 ∧ h.reader.getMessageType ≠ StunMsgTypeBinding then h.setErrorcode STUN_ERROR_BADREQUEST
  else h

/-- `if (_error.errorcode == 0)`: a step that fails without a code of its own makes it a 400. -/
def stage (m : Hr CStunRequestHandler Unit) (h : CStunRequestHandler) : CStunRequestHandler :=
  if h.error.errorcode = 0 then
    match Proc.exec m h with
    | (.ok _, h) => h
    | (.error _, h) => if h.error.errorcode = 0 then h.setErrorcode STUN_ERROR_BADREQUEST else h
  else h

variable [Platform] [Digests]

def answerError (h : CStunRequestHandler) : CStunRequestHandler :=
  if h.error.errorcode ≠ 0 then h.buildErrorResponse else h

def processRequestImpl : Hr CStunRequestHandler Unit := do
  let h ← get
  chkIf (h.reader.getMessageClass ≠ .request) E_FAIL
  modify prepare
  modify honourResponsePort
  modify requireBinding
  modify (stage validateAuth)
  modify (stage processBindingRequest)
  modify answerError

/-- `ProcessRequest`, a static member; its state is the `msgOut` of the caller. -/
def processRequest (msgIn : StunMessageIn) (addressSet : TransportAddressSet) (pAuth : Option IStunAuth) :
    Hr StunMessageOut Unit := do
  let msgOut ← get
  chkIf (msgOut.spBufferOut.allocatedSize < MAX_STUN_MESSAGE_SIZE) E_INVALIDARG
  chkIf (msgIn.reader.getState ≠ .bodyValidated) E_UNEXPECTED
  let handler := CStunRequestHandler.new pAuth addressSet msgIn
    { socketrole := msgIn.socketrole
      addrDest := msgIn.addrRemote
      spBufferOut := (msgOut.spBufferOut.setSize 0).2 }
  let done := Proc.exec processRequestImpl handler
  set done.2.pMsgOut
  match done.1 with
  | .ok _ => pure ()
  | .error hr => throw hr

end CStunRequestHandler

end NatTester.Source
