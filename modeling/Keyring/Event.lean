/-
Module: Keyring.Event
Purpose: What operations report to the log while they run.  An event names what happened and
  carries sizes and key ids only; its level, the component that reports it and its wording follow
  from it.
Main exports: Level, Component, Event, Event.level, Event.component, Event.message, Event.line
-/
import Keyring.KeyMask

namespace Keyring

/-- How urgent an event is. -/
inductive Level where
  | error
  | warn
  | info
  | debug
  | trace
deriving Repr, DecidableEq, Inhabited

/-- Zero for the most urgent level. -/
def Level.rank : Level → Nat
  | .error => 0
  | .warn => 1
  | .info => 2
  | .debug => 3
  | .trace => 4

def Level.name : Level → String
  | .error => "ERROR"
  | .warn => "WARN"
  | .info => "INFO"
  | .debug => "DEBUG"
  | .trace => "TRACE"

/-- The parts of the program that report events. -/
inductive Component where
  | integers
  | keySize
  | keyImport
  | keyExport
  | keyGeneration
  | store
  | provider
  | program
deriving Repr, DecidableEq, Inhabited

/-- The name of a component in log lines. -/
def Component.target : Component → String
  | .integers => "keyblob::logic::bigint_codec"
  | .keySize => "keyblob::logic::key_compat"
  | .keyImport => "keyblob::use_cases::import_key"
  | .keyExport => "keyblob::use_cases::export_key"
  | .keyGeneration => "keyblob::use_cases::generate_key"
  | .store => "keyblob::key_cache"
  | .provider => "keyblob::adapters::rustcrypto"
  | .program => "keyblob"

/-- What happened. -/
inductive Event where
  /-- The data ended inside a field, as seen by the given component. -/
  | dataEnds (component : Component)
  /-- The buffer ended inside a field, as seen by the given component. -/
  | bufferEnds (component : Component)
  | trailingData (remaining : Nat)
  | hmacLength (actual : Nat)
  | importedRsa (half : Half) (summary : RsaSummary)
  | importedHmac
  /-- There is no key to export. -/
  | missingKey
  | exportedRsa (half : Half) (length : Nat)
  | generatedSize (bits : Nat)
  | wrongSize (bytes bits : Nat)
  | generatedPair (summary : RsaSummary)
  | generatedHmac
  | unknownType (code : UInt8)
  | importedKey (id : KeyId)
  | exportedKeys (count length : Nat)
  | unpaired (requested : Half)
  | unknownBits (mask : KeyMask)
  | generatedKeys (mask : KeyMask)
  | wrongLookup (id : KeyId)
  /-- An authorization key came out with the wrong length. -/
  | wrongAuthLength (length : Nat)
  | generatingRsa (bits exponent : Nat)
  | readFile (length : Nat) (path : String)
  | wroteFile (length : Nat) (path : String)
deriving DecidableEq

namespace Event

def level : Event → Level
  | .dataEnds _ | .bufferEnds _ | .trailingData _ | .hmacLength _ | .missingKey
  | .wrongSize _ _ | .unknownType _ | .unpaired _ | .unknownBits _ | .wrongLookup _
  | .wrongAuthLength _ => .warn
  | .wroteFile _ _ => .info
  | _ => .debug

def component : Event → Component
  | .dataEnds component | .bufferEnds component => component
  | .trailingData _ => .integers
  | .hmacLength _ | .importedRsa _ _ | .importedHmac => .keyImport
  | .missingKey | .exportedRsa _ _ => .keyExport
  | .generatedSize _ | .wrongSize _ _ => .keySize
  | .generatedPair _ | .generatedHmac => .keyGeneration
  | .unknownType _ | .importedKey _ | .exportedKeys _ _ | .unpaired _ | .unknownBits _
  | .generatedKeys _ | .wrongLookup _ | .wrongAuthLength _ => .store
  | .generatingRsa _ _ => .provider
  | .readFile _ _ | .wroteFile _ _ => .program

/-- The name of the lookup that expects the other kind of key. -/
def lookupName : KeyId → String
  | .rsa _ => "lookup_hmac"
  | .hmac _ => "lookup_rsa"

def message : Event → String
  | .dataEnds _ => "Unexpected EOF of key data"
  | .bufferEnds _ => "Unexpected end of key buffer"
  | .trailingData remaining => s!"Unexpected trailing key data: {remaining} bytes"
  | .hmacLength actual => s!"Incorrect HMAC key size: {actual}"
  | .importedRsa half summary => s!"Imported RSA {half.name} key: {summary.text}"
  | .importedHmac => "Imported HMAC key"
  | .missingKey => "Cannot export a key which we don't have"
  | .exportedRsa half length => s!"Exported RSA {half.name} key: {length} bytes"
  | .generatedSize bits => s!"Generated {bits}-bit RSA key"
  | .wrongSize bytes bits => s!"Generated key has invalid size: {bytes} bytes, {bits} bits"
  | .generatedPair summary => s!"Generated RSA key pair: {summary.text}"
  | .generatedHmac => "Generated HMAC key"
  | .unknownType code => s!"Unrecognized key type: {code}"
  | .importedKey id => s!"Imported {id.text} key"
  | .exportedKeys count length => s!"Exported {count} keys: {length} bytes"
  | .unpaired requested =>
      s!"Cannot generate {requested.name} key without {requested.partner.name} key"
  | .unknownBits mask => s!"Unrecognized key types: {mask.hexText}"
  | .generatedKeys mask => s!"Generated keys {mask.text}"
  | .wrongLookup id => s!"Programmer error: invalid key ({id.code}) in {lookupName id}"
  | .wrongAuthLength length => s!"Programmer error: Incorrect HMAC key size: {length}"
  | .generatingRsa bits exponent => s!"Generating {bits}-bit RSA key, e = {exponent}"
  | .readFile length path => s!"Read {length} bytes from {path}"
  | .wroteFile length path => s!"Wrote {length} bytes to {path}"

/-- The event as a line of the log.  A path in it cannot send commands to the terminal. -/
def line (event : Event) : String :=
  s!"{event.level.name} {event.component.target}: {Text.escapeControls event.message}"

end Event

end Keyring
