import Keymaster.Defs
import Keymaster.Buffer
import Keymaster.Serializable
import Keymaster.Authorizations
import Keymaster.OperationTable
import Keymaster.KeyBlob
import Keymaster.AsymmetricKey
import Keymaster.KeyGeneration
import Keymaster.GoogleKeymaster
import Keymaster.Hmac
import Keymaster.SoftKeymaster
import Keymaster.Capabilities
import Keymaster.Frame
import Keymaster.Session
import Keymaster.KeyBinding
import Keymaster.Service
import Keymaster.Signing
import Keymaster.EcdsaLifecycle
import Keymaster.AsymmetricOperation
