import XianyuAdmin.Migrations.ImportRecords

/-!
# Accounts in migration packages

A migration package holds an account as `MigratedAccount`, in full.  The import reads a part of
it.
-/

namespace XianyuAdmin.Migrations

open XianyuAdmin.Python

inductive BrowserEngine
  | systemChromium
  | fingerprintChromium
  deriving DecidableEq, Repr

inductive BrowserPlatform
  | windows
  | linux
  | macos
  deriving DecidableEq, Repr

inductive BrowserBrand
  | chrome
  | edge
  | opera
  | vivaldi
  deriving DecidableEq, Repr

inductive WebRTCPolicy
  | proxyOnly
  | disabled
  | browserDefault
  deriving DecidableEq, Repr

/-- `AccountBrowserIdentityPayload`, without the fields that `writable_copy` clears. -/
structure BrowserIdentity where
  browserEngine : BrowserEngine := .systemChromium
  fingerprintSeed : Option ℤ := none
  browserVersion : Option String := none
  platform : BrowserPlatform := .windows
  platformVersion : String := "10.0.0"
  brand : BrowserBrand := .chrome
  language : String := "zh-CN"
  acceptLanguage : String := "zh-CN,zh;q=0.9,en;q=0.8"
  timezone : String := "Asia/Shanghai"
  hardwareConcurrency : Option ℕ := none
  spoofCanvas : Bool := true
  spoofWebgl : Bool := true
  spoofAudio : Bool := true
  spoofFonts : Bool := true
  spoofClientRects : Bool := true
  webrtcPolicy : WebRTCPolicy := .proxyOnly
  configRevision : ℤ := 1
  deriving DecidableEq

deriving instance DecidableEq for MigratedProxy

structure PackagedProxy extends MigratedProxy where
  enabled : Bool := true
  deriving DecidableEq

/-- `MigratedAccount`, in full but for the snapshot of the fingerprint, which is kept as the
text of its JSON. -/
structure PackagedAccount where
  sourceAccountId : String
  platformUserId : Option String := none
  platformDisplayName : Option String := none
  platformAvatarUrl : Option String := none
  remark : Option String := none
  cookie : String := ""
  desiredEnabled : Bool := true
  conversationVisible : Bool := true
  desiredChatEnabled : Bool := false
  orderManagementVisible : Bool := true
  productManagementVisible : Bool := true
  browserIdentity : BrowserIdentity
  sourceFingerprintSnapshot : Option String := none
  proxy : Option PackagedProxy := none
  profilePresent : Bool := false
  exportedAt : ℕ
  deriving DecidableEq

def PackagedAccount.migrated (account : PackagedAccount) : MigratedAccount where
  remark := account.remark
  platformUserId := account.platformUserId
  platformDisplayName := account.platformDisplayName
  cookie := account.cookie
  fingerprintSeed := account.browserIdentity.fingerprintSeed
  proxy := account.proxy.map PackagedProxy.toMigratedProxy

def PackagedAccount.isConsistent (account : PackagedAccount) : Bool :=
  !(truthy (cookieUserId account.cookie) && truthy account.platformUserId &&
    cookieUserId account.cookie ≠ account.platformUserId)

end XianyuAdmin.Migrations
