import B3scale.Store.CommandQueue
import B3scale.Store.CommandQueueSafety
import B3scale.Store.CommandQueueDelivery
import B3scale.Store.CommandQueueSweep
import B3scale.Store.CommandQueueOrder
import B3scale.Store.CommandQueueEnqueue
import B3scale.Store.CommandQueueReceive
import B3scale.Bbb.Meeting
import B3scale.Bbb.Response
import B3scale.Bbb.ResponseMethods
import B3scale.Store.MeetingState
import B3scale.Store.SetMeetings
import B3scale.Store.Like
import B3scale.Store.Settings
import B3scale.Cluster.Backend
import B3scale.Cluster.Controller
import B3scale.Cluster.RibRedis
import B3scale.Cluster.RibCluster
import B3scale.Node.Handler
import B3scale.Node.Dispatch
import B3scale.Node.Config
