import Missive.RustText

/-! The seven hand-copied `is_secret_key` tests. All of them keep the ASCII
letters and digits of a key, lowercase them and compare the result with fixed
words; they differ in the words and in whether a word may be a suffix or occur
anywhere. -/
namespace Missive.SecretKeys

open RustText

/-- `key.chars().filter(is_ascii_alphanumeric).flat_map(to_lowercase).collect()`. -/
def normalizeKey (key : Text) : Text := lowercase (key.filter isAsciiAlphanumeric)

structure KeyRule where
  words : List String
  suffixes : List String
  infixes : List String

/-- `matches!(normalized, words) || normalized.ends_with(..) || normalized.contains(..)`. -/
def KeyRule.isSecretKeyNormalized (rule : KeyRule) (normalized : Text) : Bool :=
  rule.words.any (fun word => word.toList == normalized) ||
    rule.suffixes.any (fun word => word.toList.isSuffixOf normalized) ||
    rule.infixes.any (fun word => (find normalized word.toList).isSome)

def KeyRule.isSecretKey (rule : KeyRule) (key : Text) : Bool :=
  rule.isSecretKeyNormalized (normalizeKey key)

theorem secret_key_iff (rule : KeyRule) (normalized : Text) :
    rule.isSecretKeyNormalized normalized = true ↔
      normalized ∈ rule.words.map String.toList ∨
        (∃ word ∈ rule.suffixes, word.toList <:+ normalized) ∨
        ∃ word ∈ rule.infixes, (find normalized word.toList).isSome = true := by
  simp [KeyRule.isSecretKeyNormalized, or_assoc]

/-- `missive-cli/src/output.rs`. -/
def outputRule : KeyRule where
  words := ["authorization", "proxyauthorization", "cookie", "setcookie", "apikey", "xapikey",
    "xauthtoken", "xcsrftoken", "token", "secret", "password", "passwd", "credential",
    "credentials", "clientsecret", "refreshtoken", "accesstoken", "accesskey", "privatekey",
    "sessiontoken"]
  suffixes := ["token", "secret", "password", "apikey"]
  infixes := []

/-- `missive-observe/src/lib.rs`. -/
def observeRule : KeyRule where
  words := ["authorization", "proxyauthorization", "cookie", "setcookie", "apikey", "xapikey",
    "xauthtoken", "xcsrftoken", "token", "secret", "password", "passwd", "credential",
    "credentials", "clientsecret", "refreshtoken", "accesstoken", "accesskey", "privatekey",
    "sessiontoken"]
  suffixes := ["token", "secret", "password", "apikey"]
  infixes := []

/-- `missive-core/src/config.rs`. -/
def configRule : KeyRule where
  words := ["authorization", "proxyauthorization", "cookie", "setcookie", "apikey", "xapikey",
    "xauthtoken", "xcsrftoken", "token", "secret", "password", "passwd", "credential",
    "credentials", "clientsecret", "refreshtoken", "accesstoken", "accesskey", "privatekey",
    "sessiontoken"]
  suffixes := ["token", "secret", "password", "apikey"]
  infixes := []

/-- `missive-gateway/src/jobs.rs`. -/
def jobsRule : KeyRule where
  words := ["authorization", "proxyauthorization", "token", "accesstoken", "refreshtoken",
    "apikey", "password", "secret", "credentials", "cookie", "setcookie"]
  suffixes := []
  infixes := []

/-- `missive-gateway/src/subscription.rs`. -/
def subscriptionRule : KeyRule where
  words := ["authorization", "proxyauthorization", "token", "accesstoken", "refreshtoken",
    "apikey", "password", "secret", "credentials", "cookie", "setcookie"]
  suffixes := []
  infixes := []

/-- `missive-gateway/src/webhook.rs`. Its word `apiKey` can never match, since
the compared text is lowercase. -/
def webhookRule : KeyRule where
  words := ["authorization", "proxyauthorization", "token", "accesstoken", "refreshtoken",
    "apikey", "apiKey", "password", "secret", "credentials", "cookie", "setcookie"]
  suffixes := []
  infixes := ["token", "secret", "password"]

/-- `missive-gateway/src/daemon.rs`. -/
def daemonRule : KeyRule where
  words := ["authorization", "proxyauthorization", "token", "accesstoken", "refreshtoken",
    "apikey", "password", "secret", "credentials", "cookie", "setcookie"]
  suffixes := []
  infixes := ["token", "secret", "password", "apikey"]

end Missive.SecretKeys
