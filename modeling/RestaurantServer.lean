import RestaurantServer.ThrowingMethods
import RestaurantServer.MethodTriples
import RestaurantServer.RequestRuns
import RestaurantServer.KeyedRows
import RestaurantServer.RecordTables
import RestaurantServer.OptimisticLocking
import RestaurantServer.RelyGuarantee
import RestaurantServer.PaddedColumns
import RestaurantServer.DigitStrings
import RestaurantServer.JavaExceptions
import RestaurantServer.JavaStrings
import RestaurantServer.JavaLongs
import RestaurantServer.Charsets
import RestaurantServer.Base64
import RestaurantServer.BlockCipherModes
import RestaurantServer.DiffieHellmanProvider
import RestaurantServer.JceCipher
import RestaurantServer.JsonTokens
import RestaurantServer.CassandraDatabase
import RestaurantServer.DHKeyAgreement2
import RestaurantServer.KeyAgreementRuns
import RestaurantServer.KeyExchangeServer
import RestaurantServer.KeyExchangeClients
import RestaurantServer.SecretComparison
import RestaurantServer.HexStrings
import RestaurantServer.AESCipher
import RestaurantServer.KeystoreUtil
import RestaurantServer.MainApp
import RestaurantServer.AuthHelper
import RestaurantServer.CryptoHelper
import RestaurantServer.TokenThreads
import RestaurantServer.ExposedMessages
import RestaurantServer.AESCipherCalls
import RestaurantServer.TokenPipeline
import RestaurantServer.HostCharsets
import RestaurantServer.TokenExpiry
import RestaurantServer.SessionKeys
import RestaurantServer.KeyExchangeStrangers
import RestaurantServer.SessionUtil
import RestaurantServer.SessionCalls
import RestaurantServer.RestaurantController
import RestaurantServer.ConfiguredDatabase
import RestaurantServer.TruthfulReplies
import RestaurantServer.RestaurantStore
import RestaurantServer.ListedRestaurants
import RestaurantServer.RestaurantThreads
import RestaurantServer.EventLog
import RestaurantServer.ParallelRequests
import RestaurantServer.OpenClusters
import RestaurantServer.SessionInvariants
import RestaurantServer.TableInventory
import RestaurantServer.ProductController
import RestaurantServer.ProductStore
import RestaurantServer.ProductCatalogue
import RestaurantServer.SpringBootWebApplication
import RestaurantServer.ConfigurationRuns
import RestaurantServer.LeakedClusters
import RestaurantServer.DatabaseFrames
