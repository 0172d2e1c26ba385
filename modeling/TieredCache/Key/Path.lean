import TieredCache.Digest.Sha256
import TieredCache.Key.Escape

/-!
The file of a key below a root directory. A key whose escaped path would be too long is stored
under a digest of the key instead. Names with an exclamation mark are never escaped keys.
-/

namespace TieredCache.Key
open FilePath

/-- The longest path of an escaped key, with the root. -/
def pathLimit : Nat := 4096

/-- The marker file that holds the time of the next clean pass. -/
def cleanTimeName : Bytes := Text.bytes "!clean!time!"

/-- The marker file that exists while a clean pass runs. -/
def cleanLockName : Bytes := Text.bytes "!clean!lock!"

/-- What the name of every digested key starts with. -/
def hashedMark : Bytes := Text.bytes "!hashed!"

def hashedName (key : String) : Bytes :=
  hashedMark ++ Text.bytes (Bytes.hex (Digest.sha256 (Text.bytes key)))

/-- Puts a relative path below a root; a slash goes between unless the root ends in one or is
empty. -/
def join (root relative : Bytes) : Bytes :=
  if root.isEmpty ∨ root.getLast? = some slash then root ++ relative
  else root ++ slash :: relative

/-- The path of the key's file below a root. -/
def relativePath (root : Bytes) (key : String) : Bytes :=
  let escaped := escape key
  if (join root escaped).length ≤ pathLimit then escaped else hashedName key

def path (root : Bytes) (key : String) : Bytes :=
  join root (relativePath root key)

end TieredCache.Key
