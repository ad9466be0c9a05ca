import SriovDra.GoMap
import SriovDra.Types
import SriovDra.Controller.Filter
import SriovDra.Controller.ResourceMap
import SriovDra.Controller.Watches
import SriovDra.DeviceState
import SriovDra.Controller.Reconcile
import SriovDra.Driver.Compare
import SriovDra.Driver.Sync
import SriovDra.Driver.Race
import SriovDra.Driver.Publish
import SriovDra.Manager
import SriovDra.Manager.Convergence
