import Skyline.AdminExemption
import Skyline.BootImages
import Skyline.ConfigFile
import Skyline.DeletionFailure
import Skyline.DuplicateNames
import Skyline.FixedIps
import Skyline.Forwards
import Skyline.LifecycleExtension
import Skyline.LifecycleIsolation
import Skyline.LifecycleRefinement
import Skyline.LifecycleSafety
import Skyline.LifecycleStatus
import Skyline.LifecycleWarnings
import Skyline.Limits
import Skyline.ListingIsolation
import Skyline.Overtaking
import Skyline.PolicyListing
import Skyline.PortChoice
import Skyline.PortForwardingLimit
import Skyline.PortListing
import Skyline.ProjectFilters
import Skyline.Prometheus
import Skyline.ProxyEndpoints
import Skyline.ProxyLocations
import Skyline.Reclamation
import Skyline.Refusals
import Skyline.Revocation
import Skyline.RuleCode
import Skyline.SampleFiles
import Skyline.SessionCookie
import Skyline.SettingSecrecy
import Skyline.SettingUsability
import Skyline.SignupSaga
import Skyline.SnapshotEnrichment
import Skyline.Tenancy
import Skyline.UniqueNames
import Skyline.VolumeCleanup
import Skyline.VolumeLeak
import Skyline.Authenticity
import Skyline.KeystoneApi
import Skyline.SigningIn
import Skyline.Catalogue
import Skyline.PortForwardingRace
import Skyline.SlidingSession
import Skyline.ActivityLog
import Skyline.Provisioned
import Skyline.VolumeListing
import Skyline.SettingOverlay
import Skyline.SigningUp
import Skyline.PolicyDeployment
